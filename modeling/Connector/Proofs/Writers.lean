import Connector.Proofs.Queues
import Connector.Proofs.Sending
import Connector.Writer

/-! The way of the octets through a writer.

* `Writer.Flow`: what a writer got is the front of what its queue accepted, and without a failure it ends only
  when it has got all;
* `Writer.Flow.step`, `Writer.Flow.fill`: no move of the writer disturbs that, and no buffer that is offered
  to the queue;
* `Outlet.flow_run`: so it is after any moves of a writer and those who send. -/

namespace Connector

namespace Writer

/-- What is known about a writer: which buffers its queue accepted so far, whether the client's stream
failed, whether anyone can send, and whether the writer was told to stop. -/
structure Account where
  accepted : List Bytes
  failed : Bool
  senders : Bool
  told : Bool

/-- The account after a move. -/
def Account.after (a : Account) : Move → Account
  | .fail => { a with failed := true }
  | _ => a

/-- The octets that the writer got so far, handed out or not. -/
def got (w : Writer) : Bytes := w.handed ++ (w.kept ++ w.current)

def InOrder (a : Account) (w : Writer) (q : Queue Bytes) : Prop :=
  w.got ++ q.items.flatten = a.accepted.flatten

/-- What holds of a writer and its queue. A failure takes the writer to its end at once. Without one it
gets there only when it has got all, and nothing more is accepted then. -/
def Flow (a : Account) (w : Writer) (q : Queue Bytes) : Prop :=
  match w.stage with
  | .waiting => a.failed = false ∧ q.closed = false ∧ w.kept = [] ∧ InOrder a w q
  | .writing _ | .flushing => a.failed = false ∧ q.closed = false ∧ InOrder a w q
  | .draining | .drainWriting _ => a.failed = false ∧ (q.closed = true ∧ a.told = true) ∧ InOrder a w q
  | .lastFlush =>
      w.got <+: a.accepted.flatten ∧
        (a.failed = false → (q.closed = true ∧ a.told = true) ∧ w.got = a.accepted.flatten)
  | .closing | .exited =>
      w.got <+: a.accepted.flatten ∧
        (a.failed = false →
          (q.closed = true ∧ a.told = true ∨ a.senders = false) ∧ w.kept = [] ∧
            w.got = a.accepted.flatten)

variable {a : Account} {w next : Writer} {q later : Queue Bytes} {m : Move} {n : Nat}

theorem flow_new (capacity : Nat) (senders told : Bool) :
    Flow ⟨[], false, senders, told⟩ .new (.empty capacity) := ⟨rfl, rfl, rfl, rfl⟩

/-! ### What a flow tells -/

theorem Flow.got_prefix (flow : Flow a w q) : w.got <+: a.accepted.flatten := by
  have front (order : InOrder a w q) : w.got <+: a.accepted.flatten := order ▸ List.prefix_append _ _
  cases stage : w.stage
  all_goals simp only [Flow, stage] at flow
  · exact front flow.2.2.2
  · exact front flow.2.2
  · exact front flow.2.2
  · exact front flow.2.2
  · exact front flow.2.2
  · exact flow.1
  · exact flow.1
  · exact flow.1

theorem Flow.handed_prefix (flow : Flow a w q) : w.handed <+: a.accepted.flatten :=
  (List.prefix_append _ _).trans flow.got_prefix

/-- Past its last flush a writer has handed out all, unless the stream failed. -/
theorem Flow.handed_eq (flow : Flow a w q) (ended : w.stage = .closing ∨ w.stage = .exited)
    (unfailed : a.failed = false) : w.handed = a.accepted.flatten ∧ w.kept = [] := by
  obtain ⟨none, all⟩ : w.kept = [] ∧ w.got = a.accepted.flatten := by
    rcases ended with stage | stage
    all_goals simp only [Flow, stage] at flow
    all_goals exact (flow.2 unfailed).2
  have current : w.current = [] := by
    rcases ended with stage | stage
    all_goals rw [Writer.current, stage]
  rw [got, none, current] at all
  exact ⟨by simpa using all, none⟩

/-- Only a writer that was told to stop closes its queue. -/
theorem Flow.told_of_closed (flow : Flow a w q) (unfailed : a.failed = false) (senders : a.senders = true)
    (closed : q.closed = true) : a.told = true := by
  cases stage : w.stage
  all_goals simp only [Flow, stage, closed, unfailed, senders] at flow
  all_goals simp at flow
  all_goals simp [flow]

/-! ### Moves -/

theorem got_write? (stepped : w.write? n = some next) : next.got = w.got := by
  obtain ⟨stage, kept, handed⟩ := w
  simp only [write?] at stepped
  split at stepped
  all_goals cases stepped
  all_goals simp [got, current]

theorem got_hand? (stepped : w.hand? n = some next) :
    next.got = w.got ∧ next.stage = w.stage ∧ (w.kept = [] → next.kept = []) := by
  obtain ⟨stage, kept, handed⟩ := w
  simp only [hand?] at stepped
  split at stepped
  all_goals cases stepped
  refine ⟨?_, rfl, ?_⟩
  · simp [got, current, ← List.append_assoc (kept.take n)]
  · rintro rfl
    exact List.drop_nil

theorem got_fail? (stepped : w.fail? = some next) : next.got <+: w.got := by
  obtain ⟨stage, kept, handed⟩ := w
  simp only [fail?] at stepped
  split at stepped
  all_goals cases stepped
  all_goals simp [got, current, List.prefix_append_right_inj]

theorem InOrder.congr (order : InOrder a w q) (same : next.got = w.got) : InOrder a next q := by
  rw [InOrder, same]
  exact order

theorem Flow.receive (flow : Flow a w q)
    (stepped : w.receive? ⟨q, a.senders, a.told⟩ = some (next, later)) : Flow a next later := by
  obtain ⟨stage, kept, handed⟩ := w
  obtain ⟨capacity, items, closed⟩ := q
  simp only [receive?] at stepped
  split at stepped
  · cases stepped
    obtain ⟨unfailed, isOpen, rfl, order⟩ := flow
    exact ⟨unfailed, isOpen, by simpa [InOrder, got, current] using order⟩
  · split at stepped
    · cases stepped
    · next gone =>
        cases stepped
        obtain ⟨unfailed, isOpen, none, order⟩ := flow
        have all : Writer.got ⟨.closing, kept, handed⟩ = a.accepted.flatten := by
          simpa [InOrder, got, current] using order
        exact ⟨all ▸ List.prefix_rfl, fun _ => ⟨.inr (by simpa using gone), none, all⟩⟩
  · cases stepped
    obtain ⟨unfailed, ended, order⟩ := flow
    exact ⟨unfailed, ended, by simpa [InOrder, got, current] using order⟩
  · cases stepped
    obtain ⟨unfailed, ended, order⟩ := flow
    have all : Writer.got ⟨.lastFlush, kept, handed⟩ = a.accepted.flatten := by
      simpa [InOrder, got, current] using order
    exact ⟨all ▸ List.prefix_rfl, fun _ => ⟨ended, all⟩⟩
  · cases stepped

theorem Flow.stop (flow : Flow a w q)
    (stepped : w.stop? ⟨q, a.senders, a.told⟩ = some (next, later)) : Flow a next later := by
  obtain ⟨stage, kept, handed⟩ := w
  simp only [stop?] at stepped
  split at stepped
  · split at stepped
    · next told =>
        cases stepped
        obtain ⟨unfailed, -, -, order⟩ := flow
        exact ⟨unfailed, ⟨rfl, told⟩, order⟩
    · cases stepped
  · cases stepped

theorem Flow.write (flow : Flow a w q) (stepped : w.write? n = some next) : Flow a next q := by
  have same := got_write? stepped
  obtain ⟨stage, kept, handed⟩ := w
  simp only [write?] at stepped
  split at stepped
  all_goals cases stepped
  all_goals exact ⟨flow.1, flow.2.1, flow.2.2.congr same⟩

theorem Flow.hand (flow : Flow a w q) (stepped : w.hand? n = some next) : Flow a next q := by
  obtain ⟨same, stage', rested⟩ := got_hand? stepped
  cases stage : w.stage
  all_goals simp only [Flow, stage', stage, same] at flow ⊢
  case waiting | exited => simp [hand?, stage] at stepped
  case lastFlush => exact flow
  case closing =>
    refine ⟨flow.1, fun unfailed => ?_⟩
    obtain ⟨ended, none, all⟩ := flow.2 unfailed
    exact ⟨ended, rested none, all⟩
  all_goals exact ⟨flow.1, flow.2.1, flow.2.2.congr same⟩

theorem Flow.flushed (flow : Flow a w q) (stepped : w.flushed? = some next) : Flow a next q := by
  obtain ⟨stage, kept, handed⟩ := w
  simp only [flushed?] at stepped
  split at stepped
  · cases stepped
    exact ⟨flow.1, flow.2.1, flow.2.2.congr rfl⟩
  · cases stepped
    exact ⟨flow.1, flow.2.1, flow.2.2.congr rfl⟩
  · obtain ⟨empty, same⟩ := Option.ite_none_right_eq_some.mp stepped
    cases same
    exact ⟨flow.1, flow.2.1, List.isEmpty_iff.mp empty, flow.2.2.congr rfl⟩
  · obtain ⟨empty, same⟩ := Option.ite_none_right_eq_some.mp stepped
    cases same
    refine ⟨flow.1, fun unfailed => ?_⟩
    obtain ⟨ended, all⟩ := flow.2 unfailed
    exact ⟨.inl ended, List.isEmpty_iff.mp empty, all⟩
  · obtain ⟨-, same⟩ := Option.ite_none_right_eq_some.mp stepped
    cases same
    exact flow
  · cases stepped

theorem Flow.fail (flow : Flow a w q) (stepped : w.fail? = some next) :
    Flow { a with failed := true } next q := by
  have front : next.got <+: a.accepted.flatten := (got_fail? stepped).trans flow.got_prefix
  unfold fail? at stepped
  split at stepped
  all_goals cases stepped
  all_goals exact ⟨front, nofun⟩

theorem Flow.abandon (flow : Flow a w q) (exited : w.stage = .exited) : Flow a w q.abandon := by
  simp only [Flow, exited] at flow ⊢
  refine ⟨flow.1, fun unfailed => ?_⟩
  obtain ⟨ended, rest⟩ := flow.2 unfailed
  exact ⟨ended.imp_left fun told => ⟨rfl, told.2⟩, rest⟩

theorem Flow.alone {moved : Option Writer} {s : Surroundings}
    (flows : ∀ w, moved = some w → Flow a w s.queue)
    (stepped : alone s moved = some (next, later)) : Flow a next later := by
  obtain ⟨w, found, same⟩ := Option.map_eq_some_iff.mp stepped
  cases same
  have flow := flows next found
  unfold isExited
  split
  · next exited => exact flow.abandon exited
  · exact flow

theorem Flow.step (flow : Flow a w q)
    (stepped : w.step? ⟨q, a.senders, a.told⟩ m = some (next, later)) : Flow (a.after m) next later := by
  cases m with
  | receive => exact flow.receive stepped
  | stop => exact flow.stop stepped
  | write n => exact .alone (fun _ => flow.write) stepped
  | hand n => exact .alone (fun _ => flow.hand) stepped
  | flushed => exact .alone (fun _ => flow.flushed) stepped
  | fail => exact .alone (fun _ => flow.fail) stepped

/-- Others may offer buffers to the queue as long as anyone can send. -/
theorem Flow.fill (flow : Flow a w q) (senders : a.senders = true) {more : List Bytes} {later : Queue Bytes}
    (fills : q.Fills more later) : Flow { a with accepted := a.accepted ++ more } w later := by
  obtain ⟨rfl, rfl | ⟨isOpen, -⟩⟩ := fills
  · rw [Queue.extend_nil, List.append_nil]
    exact flow
  · have order (order : InOrder a w q) :
        InOrder { a with accepted := a.accepted ++ more } w (q.extend more) := by
      rw [InOrder] at order ⊢
      simp only [Queue.extend, List.flatten_append, ← order, List.append_assoc]
    have front : w.got <+: (a.accepted ++ more).flatten := by
      rw [List.flatten_append]
      exact flow.got_prefix.trans (List.prefix_append _ _)
    cases stage : w.stage
    all_goals simp only [Flow, stage] at flow ⊢
    case waiting => exact ⟨flow.1, flow.2.1, flow.2.2.1, order flow.2.2.2⟩
    case lastFlush =>
      refine ⟨front, fun unfailed => ?_⟩
      exact absurd (isOpen.symm.trans (flow.2 unfailed).1.1) Bool.false_ne_true
    case closing | exited =>
      refine ⟨front, fun unfailed => ?_⟩
      rcases (flow.2 unfailed).1 with told | gone
      · exact absurd (isOpen.symm.trans told.1) Bool.false_ne_true
      · exact absurd (gone.symm.trans senders) Bool.false_ne_true
    all_goals exact ⟨flow.1, flow.2.1, order flow.2.2⟩

/-- The last of those who could send goes away, or the writer is told to stop. -/
theorem Flow.turn (flow : Flow a w q) {senders told : Bool} (gone : a.senders = false → senders = false)
    (stays : a.told = true → told = true) : Flow { a with senders, told } w q := by
  cases stage : w.stage
  all_goals simp only [Flow, stage] at flow ⊢
  case draining | drainWriting => exact ⟨flow.1, ⟨flow.2.1.1, stays flow.2.1.2⟩, flow.2.2⟩
  case lastFlush =>
    refine ⟨flow.1, fun unfailed => ?_⟩
    obtain ⟨ended, all⟩ := flow.2 unfailed
    exact ⟨⟨ended.1, stays ended.2⟩, all⟩
  case closing | exited =>
    refine ⟨flow.1, fun unfailed => ?_⟩
    obtain ⟨ended, rest⟩ := flow.2 unfailed
    exact ⟨ended.imp (fun told => ⟨told.1, stays told.2⟩) gone, rest⟩
  all_goals exact flow

end Writer

/-! ## A writer beside its session -/

namespace Outlet

open Writer (Flow)

variable {o next last : Outlet} {m : Move} {failed : Bool} {before taken : List Bytes}

theorem flow_step (flow : Flow ⟨before, failed, o.senders, o.stopped⟩ o.writer o.session.outbound)
    (stepped : o.step? m = some next) :
    Flow ⟨before ++ o.accepted m, failed || m = .write .fail, next.senders, next.stopped⟩ next.writer
      next.session.outbound := by
  cases m with
  | send octets =>
      obtain ⟨senders, same⟩ := Option.ite_none_right_eq_some.mp stepped
      cases same
      simp only [reduceCtorEq, decide_false, Bool.or_false]
      exact flow.fill senders (o.session.send_fills octets)
  | leave =>
      cases stepped
      simpa [accepted] using flow.turn (fun _ => rfl) id
  | stop =>
      cases stepped
      simpa [accepted] using flow.turn id (fun _ => rfl)
  | write m =>
      obtain ⟨⟨writer, outbound⟩, went, same⟩ := Option.map_eq_some_iff.mp stepped
      cases same
      have after := flow.step went
      simp only [accepted, List.append_nil]
      cases m with
      | fail => simpa [Writer.Account.after] using after
      | receive | stop | write | hand | flushed => simpa [Writer.Account.after] using after

theorem flow_run (flow : Flow ⟨before, failed, o.senders, o.stopped⟩ o.writer o.session.outbound)
    {moves : List Move} (ran : o.run? moves = some (last, taken)) :
    Flow ⟨before ++ taken, failed || .write .fail ∈ moves, last.senders, last.stopped⟩ last.writer
      last.session.outbound := by
  induction moves generalizing o before failed taken with
  | nil =>
      cases ran
      simpa using flow
  | cons m moves ih =>
      simp only [run?, bind, Option.bind_eq_some_iff] at ran
      obtain ⟨next, stepped, ⟨final, later⟩, ran, same⟩ := ran
      cases same
      have after := ih (flow_step flow stepped) ran
      simpa [Bool.or_assoc, eq_comm] using after

end Outlet

end Connector
