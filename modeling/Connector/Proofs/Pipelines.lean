import Connector.Pipeline
import Connector.Proofs.Queues

/-! What can become of a pipeline in one move, and what holds of it after any.

* `Pipeline.Step`, `Pipeline.step_of_step?`: the changes that moves make;
* `Pipeline.Sound`, `Pipeline.Sound.step`: the queue keeps within its capacity and closes only once the
  reader is past it, and a processor that has ended has left nothing;
* `Pipeline.Sound.underway_of_exited`: with that nothing is underway any more. -/

namespace Connector

variable {α : Type}

/-- How far the reader has come. It never goes back. -/
def Reader.stage : Reader α → Nat
  | reading | holding _ => 0
  | ended => 1
  | released => 2
  | detached => 3
  | cancelled => 4
  | joined => 5

namespace Pipeline

variable {capacity : Nat} {p q : Pipeline α}

theorem isDetached_iff (p : Pipeline α) : p.isDetached = true ↔ 3 ≤ p.reader.stage := by
  obtain ⟨reader, queue, processor⟩ := p
  cases reader <;> simp [isDetached, Reader.stage]

theorem isCancelled_iff (p : Pipeline α) : p.isCancelled = true ↔ 4 ≤ p.reader.stage := by
  obtain ⟨reader, queue, processor⟩ := p
  cases reader <;> simp [isCancelled, Reader.stage]

theorem isDetached_of_isCancelled (h : p.isCancelled = true) : p.isDetached = true := by
  rw [isCancelled_iff] at h
  rw [isDetached_iff]
  omega

/-- A packet that waits for room holds the reader back. -/
theorem not_isDetached_of_holding {a : α} (h : p.reader = .holding a) : ¬ p.isDetached = true := by
  rw [isDetached_iff, h]
  exact Nat.not_succ_le_zero 2

/-! ## Steps -/

def isDraining (p : Pipeline α) : Bool :=
  match p.processor with
  | .draining | .drainingBusy _ => true
  | _ => false

/-- What one move may change. -/
inductive Step (p : Pipeline α) : Pipeline α → Prop
  | reader (next : Reader α) (onward : p.reader.stage ≤ next.stage) : Step p { p with reader := next }
  | push (a : α) (held : p.reader = .holding a) (room : p.queue.HasRoom) :
      Step p { p with reader := .reading, queue := p.queue.extend [a] }
  | receive (a : α) (rest : List α) (first : p.queue.items = a :: rest) (next : Processor α)
      (same : Pipeline.isDraining { p with processor := next } = p.isDraining)
      (works : next ≠ .exited) :
      Step p { p with queue := { p.queue with items := rest }, processor := next }
  | exit (empty : p.queue.items = []) (last : p.isDetached = true ∨ p.isDraining = true) :
      Step p { p with processor := .exited }
  | finish (next : Processor α) (same : Pipeline.isDraining { p with processor := next } = p.isDraining)
      (works : next ≠ .exited) : Step p { p with processor := next }
  | drain (told : p.isCancelled = true) :
      Step p { p with queue := p.queue.close, processor := .draining }

theorem push_cases (h : p.push? = some q) :
    ∃ a, p.reader = .holding a ∧
      (p.queue.HasRoom ∧ q = { p with reader := .reading, queue := p.queue.extend [a] } ∨
        q = { p with reader := .ended }) := by
  unfold push? at h
  split at h
  · next a held =>
      refine ⟨a, held, ?_⟩
      by_cases room : p.queue.HasRoom
      · rw [Queue.offer_of_hasRoom room] at h
        cases h
        exact .inl ⟨room, rfl⟩
      · obtain ⟨refusal, refused⟩ := Queue.offer_of_not_hasRoom room a
        rw [refused] at h
        cases refusal with
        | full => cases h
        | closed =>
            cases h
            exact .inr rfl
  · cases h

theorem step_of_receive? (h : p.receive? = some q) : Step p q := by
  obtain ⟨reader, queue, processor⟩ := p
  unfold receive? at h
  repeat' split at h
  all_goals cases h
  · next idle first _ => exact .receive _ _ first _ (by cases idle; rfl) (by simp)
  · next idle empty _ detached => exact .exit empty (.inl detached)
  · next draining first => exact .receive _ _ first _ (by cases draining; rfl) (by simp)
  · next draining empty => exact .exit empty (.inr (by cases draining; rfl))

theorem step_of_step? {move : Move α} (h : p.step? move = some q) : Step p q := by
  cases move with
  | push =>
      obtain ⟨a, held, ⟨room, rfl⟩ | rfl⟩ := push_cases h
      · exact .push a held room
      · exact .reader _ (by rw [held]; exact Nat.zero_le _)
  | receive => exact step_of_receive? h
  | finish =>
      simp only [step?, finish?] at h
      split at h
      all_goals cases h
      · next busy => exact .finish _ (by simp [isDraining, busy]) (by simp)
      · next busy => exact .finish _ (by simp [isDraining, busy]) (by simp)
  | drain =>
      simp only [step?, drain?] at h
      repeat' split at h
      all_goals cases h
      next told => exact .drain told
  | look =>
      simp only [step?, look?] at h
      split at h
      all_goals cases h
      exact .reader p.reader (Nat.le_refl _)
  | join =>
      simp only [step?, join?] at h
      split at h
      all_goals cases h
      next here _ => exact .reader _ (by simp [here, Reader.stage])
  | take | quit | release | detach | cancel =>
      simp only [step?, take?, quit?, release?, detach?, cancel?] at h
      split at h
      all_goals cases h
      next here => exact .reader _ (by simp [here, Reader.stage])

/-! ## What holds after any moves -/

structure Sound (capacity : Nat) (p : Pipeline α) : Prop where
  capacity_eq : p.queue.capacity = capacity
  fits : p.queue.items.length ≤ capacity
  closed : p.queue.closed = true → p.isCancelled = true
  draining : p.isDraining = true → p.isCancelled = true
  exited : p.isExited = true → p.queue.items = [] ∧ p.isDetached = true

theorem sound_new (capacity : Nat) : (new capacity : Pipeline α).Sound capacity where
  capacity_eq := rfl
  fits := Nat.zero_le _
  closed h := by cases h
  draining h := by cases h
  exited h := by cases h

theorem not_isExited {next : Processor α} (works : next ≠ .exited) :
    ¬ Pipeline.isExited { p with processor := next } = true := by
  cases next <;> simp_all [isExited]

theorem Sound.step (sound : p.Sound capacity) (step : Step p q) : q.Sound capacity := by
  obtain ⟨capacity_eq, fits, closed, draining, exited⟩ := sound
  have cancelled {next : Reader α} (onward : p.reader.stage ≤ next.stage) (h : p.isCancelled = true) :
      Pipeline.isCancelled { p with reader := next } = true := by
    rw [isCancelled_iff] at h ⊢
    exact Nat.le_trans h onward
  have detached {next : Reader α} (onward : p.reader.stage ≤ next.stage) (h : p.isDetached = true) :
      Pipeline.isDetached { p with reader := next } = true := by
    rw [isDetached_iff] at h ⊢
    exact Nat.le_trans h onward
  cases step with
  | reader next onward =>
      refine ⟨capacity_eq, fits, ?_, ?_, ?_⟩
      · exact fun h => cancelled onward (closed h)
      · exact fun h => cancelled onward (draining h)
      · exact fun h => ⟨(exited h).1, detached onward (exited h).2⟩
  | push a held room =>
      obtain ⟨isOpen, short⟩ := room
      have early := not_isDetached_of_holding held
      refine ⟨capacity_eq, ?_, ?_, ?_, ?_⟩
      · rw [capacity_eq] at short
        simp only [Queue.extend, List.length_append, List.length_singleton]
        omega
      · intro h
        exact absurd (isOpen.symm.trans h) Bool.false_ne_true
      · intro h
        exact absurd (isDetached_of_isCancelled (draining h)) early
      · intro h
        exact absurd (exited h).2 early
  | receive a rest first next same works =>
      have goesOn := not_isExited (p := p) works
      refine ⟨capacity_eq, ?_, closed, fun h => draining (same ▸ h), fun h => absurd h goesOn⟩
      rw [first, List.length_cons] at fits
      exact Nat.le_of_succ_le fits
  | exit empty last =>
      refine ⟨capacity_eq, fits, closed, ?_, ?_⟩
      · intro h
        cases h
      · intro _
        rcases last with gone | last
        · exact ⟨empty, gone⟩
        · exact ⟨empty, isDetached_of_isCancelled (draining last)⟩
  | finish next same works =>
      have goesOn := not_isExited (p := p) works
      exact ⟨capacity_eq, fits, closed, fun h => draining (same ▸ h), fun h => absurd h goesOn⟩
  | drain told => exact ⟨capacity_eq, fits, fun _ => told, fun _ => told, fun h => by cases h⟩

/-- While a packet waits for room the queue is open. -/
theorem Sound.open_of_holding (sound : p.Sound capacity) (a : α) (held : p.reader = .holding a) :
    p.queue.closed = false := by
  rw [Bool.eq_false_iff]
  intro isClosed
  exact not_isDetached_of_holding held (isDetached_of_isCancelled (sound.closed isClosed))

theorem Sound.underway_of_exited (sound : p.Sound capacity) (ended : p.isExited = true) :
    p.underway = [] := by
  obtain ⟨empty, detached⟩ := sound.exited ended
  have none : p.current? = none := by
    obtain ⟨reader, queue, processor⟩ := p
    cases processor <;> simp_all [isExited, current?]
  have past : held p.reader = [] := by
    obtain ⟨reader, queue, processor⟩ := p
    cases reader <;> simp_all [isDetached, held]
  rw [underway, none, empty, past]
  rfl

end Pipeline

end Connector
