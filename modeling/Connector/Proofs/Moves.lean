import Connector.Proofs.Fates
import Connector.Proofs.Registries

/-! What becomes of the registry at a hub.

* `Hub.counted_process`: a packet does nothing but count a call, if it does anything;
* `Hub.move_after`: no event makes more of the registry than a registration or a call does;
* `Hub.kept_afterAll`: so what these keep holds after any events. -/

namespace Connector

variable {ε : Type}

theorem Fate.Leaves.counted {b : Switchboard ε} {origin : Origin} {s : Session} {after : Routed ε}
    {fate : Fate} (left : fate.Leaves b origin s after) : b.registry.Counted after.board.registry := by
  cases fate with
  | undecodable cause => exact .of_eq (congrArg _ left.1)
  | refused m => exact .of_eq (congrArg _ left.1)
  | forwarded m route => exact .of_eq left.1
  | dispatched m route =>
      obtain ⟨-, left⟩ := left
      split at left
      · exact .of_eq left.1
      · rw [left.1]
        exact .one ..

theorem Connection.counted_processKind (board : Switchboard ε) (interval now : Nat) (c : Connection)
    (p : Packet) : board.registry.Counted (c.processKind board interval now p).board.registry := by
  by_cases data : p.kind = .data
  · obtain ⟨fate, known⟩ := Fate.exists_of board.registry p.body
    obtain ⟨-, left⟩ := processData_leaves known (c.hear now)
    simp only [processKind, data]
    exact left.counted
  · exact .of_eq (congrArg Switchboard.registry (processKind_board data ..))

namespace Hub

theorem counted_process (h : Hub ε) (id : Nat) (p : Packet) :
    h.registry.Counted (h.process id p).1.registry := by
  cases found : h.table.find? id with
  | none => exact .of_eq (by rw [process_of_unknown found])
  | some c =>
      rw [process_of_found found]
      exact c.counted_processKind h.board h.settings.heartbeat.interval h.now p

theorem counted_after (h : Hub ε) {e : Event ε}
    (other : ∀ typeName candidates, e ≠ .register typeName candidates) :
    h.registry.Counted (h.after e).registry := by
  cases e with
  | register typeName candidates => exact absurd rfl (other typeName candidates)
  | packet id p => exact h.counted_process id p
  | release id => exact .of_eq (congrArg Switchboard.registry (release_board h id))
  | receive origin n => exact .of_eq (congrArg Switchboard.registry (onSession_board h origin _))
  | hangUp origin => exact .of_eq (congrArg Switchboard.registry (onSession_board h origin _))
  | connect | takeForwards | closeForwards | wait => exact .none

theorem move_after (h : Hub ε) (e : Event ε) : h.registry.Move (h.after e).registry := by
  by_cases registers : ∃ typeName candidates, e = .register typeName candidates
  · obtain ⟨typeName, candidates, rfl⟩ := registers
    rw [after, registry_withRegistry]
    exact .register typeName candidates
  · refine .counted (h.counted_after fun typeName candidates same => ?_)
    exact registers ⟨typeName, candidates, same⟩

/-- What every move keeps holds of the registry of a hub, whatever happens there. -/
theorem kept_afterAll {P : Registry (Method ε) → Prop}
    (kept : ∀ r later, P r → r.Move later → P later) {h : Hub ε} (start : P h.registry)
    (es : List (Event ε)) : P (h.afterAll es).registry := by
  induction es generalizing h with
  | nil => exact start
  | cons e es ih => exact ih (kept _ _ start (h.move_after e))

end Hub

end Connector
