import Connector.Queue

/-! Offers to a bounded queue.

* `Queue.extend`: the queue with more at its back;
* `Queue.offer_of_hasRoom`, `Queue.offer_of_not_hasRoom`: an offer is taken just when the queue is open
  and not full;
* `Queue.Fills`: nothing was done to a queue but to offer items to it, of which it took some. -/

namespace Connector.Queue

variable {α : Type}

def extend (q : Queue α) (more : List α) : Queue α := { q with items := q.items ++ more }

theorem extend_nil (q : Queue α) : q.extend [] = q := by
  rw [extend, List.append_nil]

theorem extend_extend (q : Queue α) (first later : List α) :
    (q.extend first).extend later = q.extend (first ++ later) := by
  simp only [extend, List.append_assoc]

def HasRoom (q : Queue α) : Prop := q.closed = false ∧ q.items.length < q.capacity

instance (q : Queue α) : Decidable q.HasRoom := inferInstanceAs (Decidable (_ ∧ _))

theorem offer_of_hasRoom {q : Queue α} (room : q.HasRoom) (a : α) : q.offer a = .ok (q.extend [a]) := by
  obtain ⟨isOpen, fits⟩ := room
  simp [offer, isOpen, fits, extend]

theorem offer_of_not_hasRoom {q : Queue α} (h : ¬ q.HasRoom) (a : α) :
    ∃ refusal, q.offer a = .error refusal := by
  cases isClosed : q.closed with
  | true => exact ⟨.closed, by simp [offer, isClosed]⟩
  | false =>
      have full : ¬ q.items.length < q.capacity := fun fits => h ⟨isClosed, fits⟩
      exact ⟨.full, by simp [offer, isClosed, full]⟩

/-- Nothing was done to the queue but to offer items to it, and of these it took `more`. -/
def Fills (q : Queue α) (more : List α) (later : Queue α) : Prop :=
  later = q.extend more ∧
    (more = [] ∨ q.closed = false ∧ q.items.length + more.length ≤ q.capacity)

namespace Fills

variable {q next later : Queue α} {first more : List α}

theorem refl (q : Queue α) : q.Fills [] q := ⟨(extend_nil q).symm, .inl rfl⟩

theorem of_eq (same : later = q) : q.Fills [] later := same ▸ refl q

theorem trans (h : q.Fills first next) (h' : next.Fills more later) : q.Fills (first ++ more) later := by
  obtain ⟨rfl, room⟩ := h
  obtain ⟨rfl, room'⟩ := h'
  refine ⟨extend_extend q first more, ?_⟩
  rcases room' with rfl | ⟨isOpen, fits⟩
  · rwa [List.append_nil]
  · refine .inr ⟨isOpen, ?_⟩
    simpa [extend, Nat.add_assoc] using fits

end Fills

end Connector.Queue
