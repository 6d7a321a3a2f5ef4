import Connector.Proofs.Courses

/-! The moves of a line leave less to do.

* `Pipeline.toil_step`, `Writer.toil_step`: those of its pipeline and those of its writer;
* `Inlet.unread_poll`, `Line.unread_answer?`: a packet that is read leaves fewer octets to read;
* `Line.toil_step`: so every move that a line makes by itself takes something off its toil. -/

namespace Connector

variable {α : Type}

/-! ## Pipelines -/

namespace Pipeline

/-- What a move takes off the toil at least. -/
def spent (cost : Nat) : Move α → Nat
  | .take _ | .look => 0
  | .finish => cost
  | _ => 1

/-- What a packet adds to the toil when it is taken off the stream. -/
def gained (cost : Nat) : Move α → Nat
  | .take _ => cost + 2
  | _ => 0

theorem toil_step {p q : Pipeline α} {move : Move α} (h : p.step? move = some q) (cost : Nat) :
    q.toil cost + spent cost move ≤ p.toil cost + gained cost move := by
  cases move with
  | push =>
      obtain ⟨a, held, ⟨-, rfl⟩ | rfl⟩ := push_cases h
      · simp only [toil, held, Reader.toil, Queue.extend, List.length_append, List.length_singleton,
          Nat.add_mul, spent, gained]
        omega
      · simp only [toil, held, Reader.toil, spent, gained]
        omega
  | take | look | quit | release | detach | cancel =>
      simp only [step?, take?, look?, quit?, release?, detach?, cancel?] at h
      split at h
      · next reader =>
          cases h
          simp only [toil, reader, Reader.toil, spent, gained]
          omega
      · cases h
  | join =>
      simp only [step?, join?] at h
      split at h
      · next reader _ =>
          cases h
          simp only [toil, reader, Reader.toil, spent, gained]
          omega
      · cases h
  | finish =>
      simp only [step?, finish?] at h
      split at h
      · next busy =>
          cases h
          simp only [toil, busy, Processor.toil, spent, gained]
          omega
      · next busy =>
          cases h
          simp only [toil, busy, Processor.toil, spent, gained]
          omega
      · cases h
  | drain =>
      simp only [step?, drain?] at h
      split at h
      · next idle =>
          obtain ⟨-, same⟩ := Option.ite_none_right_eq_some.mp h
          cases same
          simp only [toil, idle, Processor.toil, Queue.close, spent, gained]
          omega
      · cases h
  | receive =>
      simp only [step?, receive?] at h
      split at h
      · next idle items =>
          obtain ⟨-, same⟩ := Option.ite_none_left_eq_some.mp h
          cases same
          simp only [toil, idle, items, Processor.toil, List.length_cons, Nat.add_mul, spent, gained]
          omega
      · next idle items =>
          obtain ⟨-, same⟩ := Option.ite_none_left_eq_some.mp h
          obtain ⟨-, same⟩ := Option.ite_none_right_eq_some.mp same
          cases same
          simp only [toil, idle, Processor.toil, spent, gained]
          omega
      · next draining items =>
          cases h
          simp only [toil, draining, items, Processor.toil, List.length_cons, Nat.add_mul, spent, gained]
          omega
      · next draining items =>
          cases h
          simp only [toil, draining, Processor.toil, spent, gained]
          omega
      · cases h

end Pipeline

/-! ## Writers -/

namespace Writer

open Line (writerMoves)

variable {w next : Writer} {s : Surroundings} {m : Move} {rest : Queue Bytes}

theorem length_alone {moved : Option Writer} (h : alone s moved = some (next, rest)) :
    moved = some next ∧ rest.items.length ≤ s.queue.items.length ∧ rest.capacity = s.queue.capacity := by
  obtain ⟨w, went, same⟩ := Option.map_eq_some_iff.mp h
  cases same
  refine ⟨went, ?_⟩
  split
  · exact ⟨Nat.zero_le _, rfl⟩
  · exact ⟨Nat.le_refl _, rfl⟩

theorem length_step (h : w.step? s m = some (next, rest)) :
    rest.items.length ≤ s.queue.items.length ∧ rest.capacity = s.queue.capacity := by
  cases m with
  | write | hand | flushed | fail => exact (length_alone h).2
  | stop =>
      simp only [step?, stop?] at h
      repeat' split at h
      all_goals cases h
      exact ⟨Nat.le_refl _, rfl⟩
  | receive =>
      simp only [step?, receive?] at h
      repeat' split at h
      all_goals cases h
      all_goals simp_all

theorem toil_of_stage {before after : Stage} (stage : w.stage = before) (less : after.toil < before.toil) :
    Writer.toil { w with stage := after } < w.toil := by
  simp only [toil, stage]
  omega

theorem toil_of_kept {before after : Stage} (stage : w.stage = before) (less : after.toil + 2 ≤ before.toil)
    (kept : Bytes) : Writer.toil { w with stage := after, kept } < w.toil := by
  simp only [toil, stage]
  split <;> split <;> omega

theorem toil_write {n : Nat} (scheduled : .write n ∈ writerMoves w) (h : w.write? n = some next) :
    next.toil < w.toil := by
  have waits : w.current ≠ [] ∧ n = w.current.length := by simpa [writerMoves] using scheduled
  obtain ⟨waits, rfl⟩ := waits
  unfold write? at h
  split at h
  · next rest stage =>
      cases h
      simp only [current, stage] at waits ⊢
      exact toil_of_kept stage (by simp [Stage.toil, waits]) _
  · next rest stage =>
      cases h
      simp only [current, stage] at waits ⊢
      exact toil_of_kept stage (by simp [Stage.toil, waits]) _
  · cases h

theorem toil_hand {n : Nat} (scheduled : .hand n ∈ writerMoves w) (h : w.hand? n = some next) :
    next.toil < w.toil := by
  have waits : w.kept ≠ [] ∧ n = w.kept.length := by simpa [writerMoves] using scheduled
  obtain ⟨waits, rfl⟩ := waits
  unfold hand? at h
  split at h
  · cases h
  · cases h
  · cases h
    simp only [toil, List.drop_length, List.isEmpty_nil, if_true, List.isEmpty_iff, waits, if_false]
    omega

theorem toil_flushed (h : w.flushed? = some next) : next.toil < w.toil := by
  unfold flushed? at h
  split at h
  · next stage =>
      cases h
      exact toil_of_stage stage (by decide)
  · next stage =>
      cases h
      exact toil_of_stage stage (by decide)
  · next stage =>
      obtain ⟨-, same⟩ := Option.ite_none_right_eq_some.mp h
      cases same
      exact toil_of_stage stage (by decide)
  · next stage =>
      obtain ⟨-, same⟩ := Option.ite_none_right_eq_some.mp h
      cases same
      exact toil_of_stage stage (by decide)
  · next stage =>
      obtain ⟨-, same⟩ := Option.ite_none_right_eq_some.mp h
      cases same
      exact toil_of_stage stage (by decide)
  · cases h

/-- A buffer that leaves the queue costs no more than it did there. -/
theorem toil_receive (senders : s.senders = true) (h : w.receive? s = some (next, rest)) :
    next.toil + 5 * rest.items.length < w.toil + 5 * s.queue.items.length := by
  unfold receive? at h
  split at h
  · next data items stage queued =>
      cases h
      simp only [toil, stage, Stage.toil, queued, List.length_cons]
      split <;> omega
  · rw [senders] at h
    cases h
  · next data items stage queued =>
      cases h
      simp only [toil, stage, Stage.toil, queued, List.length_cons]
      split <;> omega
  · next stage _ =>
      cases h
      simp only [toil, stage, Stage.toil]
      omega
  · cases h

theorem toil_stop (h : w.stop? s = some (next, rest)) :
    next.toil + 5 * rest.items.length < w.toil + 5 * s.queue.items.length := by
  unfold stop? at h
  split at h
  · next stage =>
      obtain ⟨-, same⟩ := Option.ite_none_right_eq_some.mp h
      cases same
      simp only [toil, stage, Stage.toil, Queue.close]
      omega
  · cases h

/-- **Every move that a writer makes by itself leaves it less to do**, with its queue. -/
theorem toil_step (scheduled : m ∈ writerMoves w) (senders : s.senders = true)
    (h : w.step? s m = some (next, rest)) :
    next.toil + 5 * rest.items.length < w.toil + 5 * s.queue.items.length := by
  have alone {moved : Option Writer} (less : moved = some next → next.toil < w.toil)
      (h : alone s moved = some (next, rest)) :
      next.toil + 5 * rest.items.length < w.toil + 5 * s.queue.items.length := by
    obtain ⟨went, fewer, -⟩ := length_alone h
    have := less went
    omega
  cases m with
  | receive => exact toil_receive senders h
  | stop => exact toil_stop h
  | write n => exact alone (toil_write scheduled) h
  | hand n => exact alone (toil_hand scheduled) h
  | flushed => exact alone toil_flushed h
  | fail => simp [writerMoves] at scheduled

end Writer

/-! ## Reads -/

namespace Inlet

theorem weight_append (script more : List Arrival) :
    weight (script ++ more) = weight script + weight more := by
  induction script with
  | nil => simp [weight]
  | cons a script ih =>
      cases a with
      | octets data => simp only [List.cons_append, weight, ih, Nat.add_assoc]
      | notReady => simp only [List.cons_append, weight, ih, Nat.add_assoc]
      | failure text => simp only [List.cons_append, weight, ih, Nat.add_assoc]

theorem unread_read {i j : Inlet} (h : i.read = .again j ∨ ∃ result, i.read = .done result j) :
    j.unread ≤ i.unread := by
  obtain ⟨script, buffer, size, limit⟩ := i
  rcases script with _ | ⟨⟨_ | ⟨b, data⟩⟩ | _ | text, script⟩
  · simp only [read, ReadStep.done.injEq, reduceCtorEq, false_or] at h
    obtain ⟨-, -, rfl⟩ := h
    exact Nat.le_refl _
  · simp only [read, ReadStep.done.injEq, reduceCtorEq, false_or] at h
    obtain ⟨-, -, rfl⟩ := h
    simp [unread, weight]
  · simp only [read, ReadStep.again.injEq, reduceCtorEq, exists_false, or_false] at h
    subst h
    have split := congrArg List.length
      (List.take_append_drop (room ⟨.octets (b :: data) :: script, buffer, size, limit⟩) (b :: data))
    rw [List.length_append] at split
    simp only [unread, weight, List.length_append]
    split
    · omega
    · simp only [weight]
      omega
  · simp [read] at h
  · simp only [read, ReadStep.done.injEq, reduceCtorEq, false_or] at h
    obtain ⟨-, -, rfl⟩ := h
    simp [unread, weight]

theorem unread_parse {i : Inlet} {outcome : Except PacketError (Option Packet)} {buffer : Bytes}
    {skipped : List UInt8} (looked : Framing.parse i.limit i.buffer = ⟨outcome, buffer, skipped⟩) :
    unread { i with buffer } ≤ i.unread := by
  have shorter := Framing.parse_rest_length_le i.limit i.buffer
  rw [looked] at shorter
  exact Nat.add_le_add_right shorter _

theorem unread_parse_packet {i : Inlet} {p : Packet} {buffer : Bytes} {skipped : List UInt8}
    (looked : Framing.parse i.limit i.buffer = ⟨.ok (some p), buffer, skipped⟩) :
    unread { i with buffer } < i.unread := by
  have shorter := Framing.parse_rest_length_lt (congrArg Framing.Parsed.outcome looked)
  rw [looked] at shorter
  exact Nat.add_lt_add_right shorter _

theorem packets_of_read {i j : Inlet} {result : ReadResult} (h : i.read = .done result j) :
    packets [result] = [] := by
  unfold read at h
  split at h
  all_goals cases h
  · exact packets_atEnd i
  · rfl
  · exact packets_atEnd i

theorem unread_again {i j : Inlet} (h : i.step = .again j) : j.unread ≤ i.unread := by
  unfold step at h
  split at h
  · cases h
  · cases h
  · next looked => exact Nat.le_trans (unread_read (.inl h)) (unread_parse looked)

theorem unread_done {i j : Inlet} {result : ReadResult} (h : i.step = .done result j) :
    j.unread + (packets [result]).length ≤ i.unread := by
  unfold step at h
  split at h
  · next looked =>
      cases h
      exact unread_parse looked
  · next looked =>
      cases h
      exact unread_parse_packet looked
  · next looked =>
      rw [packets_of_read h]
      exact Nat.le_trans (unread_read (.inr ⟨result, h⟩)) (unread_parse looked)

/-- **A read takes from what is unread, and a packet does not come for nothing.** -/
theorem unread_poll {i j : Inlet} {result : ReadResult} (h : i.poll = (some result, j)) :
    j.unread + (packets [result]).length ≤ i.unread := by
  fun_induction poll i with
  | case1 i result next stepped =>
      cases h
      exact unread_done stepped
  | case2 i next stepped => cases h
  | case3 i next stepped ih => exact Nat.le_trans (ih h) (unread_again stepped)

end Inlet

/-! ## Lines -/

namespace Line

variable {ε : Type} {l : Line} {h : Hub ε} {m : Move} {moved : Moved ε} {cost : Nat}

theorem unread_answer? {result : ReadResult} {inlet : Inlet} (answered : l.answer? = some (result, inlet)) :
    inlet.unread + (Inlet.packets [result]).length ≤ l.inlet.unread := by
  obtain ⟨next, polled, rfl⟩ := answer?_eq answered
  have ends : l.source.EndsUnready := ⟨_, rfl⟩
  obtain ⟨script, last⟩ := ends.poll (by rw [polled]; simp)
  have last : next.script = script ++ [.notReady] := by rwa [polled] at last
  have fewer := Inlet.unread_poll polled
  have source : l.source.unread = l.inlet.unread + 1 := by
    simp only [source, Inlet.unread, Inlet.weight_append, Inlet.weight]
    omega
  have whole : next.unread = Inlet.unread { next with script := next.script.dropLast } + 1 := by
    simp only [Inlet.unread, last, List.dropLast_concat, Inlet.weight_append, Inlet.weight]
    omega
  omega

/-- What a move takes off the toil of its line at least. -/
def Move.paid (cost : Nat) : Move → Nat
  | .finish => cost
  | _ => 1

theorem toil_of_step (move : Pipeline.Move Packet) {pipeline : Pipeline Packet} (latch : Shutdown)
    {inlet : Inlet} {paid : Nat} (stepped : l.pipeline.step? move = some pipeline)
    (fewer : inlet.unread * (cost + 3) + Pipeline.gained cost move + paid ≤
      l.inlet.unread * (cost + 3) + Pipeline.spent cost move) :
    Line.toil cost { l with latch, inlet, pipeline } + paid ≤ l.toil cost := by
  have less := Pipeline.toil_step stepped cost
  simp only [toil]
  omega

theorem toil_onPipeline (move : Pipeline.Move Packet) {paid : Nat}
    (stepped : l.onPipeline h (l.pipeline.step? move) = some moved)
    (spends : Pipeline.gained cost move + paid ≤ Pipeline.spent cost move) :
    moved.line.toil cost + paid ≤ l.toil cost := by
  obtain ⟨pipeline, went, rfl⟩ := Option.map_eq_some_iff.mp stepped
  exact toil_of_step move l.latch went (by omega)

theorem toil_quit? {latch : Shutdown} {inlet : Inlet} {ending : Ending}
    (stepped : quit? { l with latch, inlet } h ending = some moved)
    (fewer : inlet.unread ≤ l.inlet.unread) : moved.line.toil cost + 1 ≤ l.toil cost := by
  obtain ⟨pipeline, went, rfl⟩ := Option.map_eq_some_iff.mp stepped
  refine toil_of_step (l := l) .quit latch went ?_
  exact Nat.add_le_add_right (Nat.mul_le_mul_right (cost + 3) fewer) 1

theorem toil_read? (stepped : l.read? h = some moved) : moved.line.toil cost + 1 ≤ l.toil cost := by
  unfold read? at stepped
  split at stepped
  · cases stepped
  · next p inlet answered =>
      obtain ⟨pipeline, went, rfl⟩ := Option.map_eq_some_iff.mp stepped
      have scaled := Nat.mul_le_mul_right (cost + 3) (unread_answer? answered)
      simp only [Inlet.packets, List.length_singleton, Nat.add_mul, Nat.one_mul] at scaled
      refine toil_of_step (l := l) (.take p) l.latch went ?_
      simp only [Pipeline.gained, Pipeline.spent]
      omega
  · next inlet answered => exact toil_quit? stepped (unread_answer? answered)
  · next cause inlet answered => exact toil_quit? stepped (unread_answer? answered)

theorem toil_of_stage {before after : Stage} (stage : l.stage = before) (less : after.toil < before.toil)
    (session : Nat) : Line.toil cost { l with stage := after, session } + 1 ≤ l.toil cost := by
  simp only [toil, stage]
  omega

/-- **Every move that a line makes by itself takes something off its toil.** The moves of its writer are apart,
since they may take from the queue instead. -/
theorem toil_step (scheduled : m ∈ l.schedule) (other : ∀ move, m ≠ .write move)
    (stepped : l.step? h m = some moved) : moved.line.toil cost + m.paid cost ≤ l.toil cost := by
  rcases step?_cases stepped with ⟨rfl, started⟩ | served
  · unfold start? at started
    split at started
    · next spawned =>
        cases started
        exact toil_of_stage spawned (by decide) _
    · cases started
  · cases m with
    | start => cases served
    | timeOut | look => simp [schedule] at scheduled
    | read => exact toil_read? served
    | notice =>
        simp only [serve?, notice?] at served
        split at served
        · cases served
        · exact toil_quit? served (Nat.le_refl _)
    | push => exact toil_onPipeline .push served (Nat.le_refl _)
    | detach => exact toil_onPipeline .detach served (Nat.le_refl _)
    | cancel => exact toil_onPipeline .cancel served (Nat.le_refl _)
    | join => exact toil_onPipeline .join served (Nat.le_refl _)
    | receive => exact toil_onPipeline .receive served (Nat.le_refl _)
    | drain => exact toil_onPipeline .drain served (Nat.le_refl _)
    | release =>
        obtain ⟨pipeline, went, rfl⟩ := Option.map_eq_some_iff.mp served
        exact toil_of_step .release l.latch went (Nat.le_refl _)
    | finish =>
        simp only [serve?, finish?, bind, Option.bind_eq_some_iff] at served
        obtain ⟨p, -, pipeline, went, same⟩ := served
        cases same
        exact toil_of_step .finish l.latch went (Nat.le_refl _)
    | stop =>
        simp only [serve?, stop?] at served
        split at served
        · next serving _ =>
            cases served
            exact toil_of_stage serving (by decide) l.session
        · cases served
    | write move => exact absurd rfl (other move)
    | leave =>
        simp only [serve?, leave?] at served
        split at served
        · next finished =>
            cases served
            simp only [Bool.and_eq_true, decide_eq_true_eq] at finished
            exact toil_of_stage finished.1 (by decide) l.session
        · cases served

end Line

end Connector
