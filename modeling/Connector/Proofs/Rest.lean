import Connector.Proofs.Isolation
import Connector.Proofs.Nodes
import Connector.Proofs.Outflow
import Connector.Proofs.Toils

/-! A node that is left alone comes to rest.

* `Hub.Within`, `Line.queued_of_step`: no queue gets longer than the most, and only a packet that is processed
  makes one longer at all;
* `Node.Eased`, `Node.eased_step`: a move that the node makes by itself leaves it less to do;
* `Node.settle_rests`: so a node that has settled has no such move left. -/

namespace Connector

variable {ε : Type}

/-! ## Queues -/

namespace Hub

/-- No queue is longer than the most, and none can get longer. -/
structure Within (most : Nat) (h : Hub ε) : Prop where
  fresh : h.settings.network.writeBufferSize ≤ most
  capacity : ∀ id s, h.session? (.connected id) = some s → s.outbound.capacity ≤ most
  length : ∀ id s, h.session? (.connected id) = some s → s.outbound.items.length ≤ most

theorem queued_of_found {h : Hub ε} {id : Nat} {s : Session} (found : h.session? (.connected id) = some s) :
    h.queued id = s.outbound.items.length := by
  rw [queued, found]
  rfl

theorem Within.queued_le {most : Nat} {h : Hub ε} (within : h.Within most) (id : Nat) :
    h.queued id ≤ most := by
  cases found : h.session? (.connected id) with
  | none =>
      rw [queued, found]
      exact Nat.zero_le _
  | some s =>
      rw [queued_of_found found]
      exact within.length id s found

theorem le_foldl_max (f : Connection → Nat) (cs : List Connection) (start : Nat) :
    start ≤ cs.foldl (fun most c => max most (f c)) start ∧
      ∀ c ∈ cs, f c ≤ cs.foldl (fun most c => max most (f c)) start := by
  induction cs generalizing start with
  | nil => exact ⟨Nat.le_refl _, by simp⟩
  | cons c cs ih =>
      obtain ⟨most, each⟩ := ih (max start (f c))
      refine ⟨Nat.le_trans (Nat.le_max_left ..) most, ?_⟩
      intro other mem
      rcases List.mem_cons.mp mem with rfl | mem
      · exact Nat.le_trans (Nat.le_max_right ..) most
      · exact each other mem

theorem within_mostQueued (h : Hub ε) : h.Within h.mostQueued := by
  obtain ⟨fresh, each⟩ := le_foldl_max
    (fun c => max c.session.outbound.capacity c.session.outbound.items.length) h.table.connections
    h.settings.network.writeBufferSize
  have both (id : Nat) (s : Session) (found : h.session? (.connected id) = some s) :
      max s.outbound.capacity s.outbound.items.length ≤ h.mostQueued := by
    obtain ⟨c, known, rfl⟩ := Option.map_eq_some_iff.mp found
    exact each c (List.mem_of_find?_eq_some known)
  exact
    { fresh
      capacity := fun id s found => Nat.le_trans (Nat.le_max_left ..) (both id s found)
      length := fun id s found => Nat.le_trans (Nat.le_max_right ..) (both id s found) }

end Hub

namespace Line

variable {l next : Line} {h later : Hub ε} {m : Move} {moved : Moved ε} {most cost : Nat}

/-- What a move may add to a queue. -/
def Move.added (most : Nat) : Move → Nat
  | .finish => most
  | _ => 0

/-- A queue is as it was, but for buffers taken from it and, if a packet is processed, others put into it. -/
theorem session?_of_step (numbered : h.table.Numbered) (step : l.Step h m next later) {id : Nat}
    {s : Session} (found : later.session? (.connected id) = some s) :
    s.outbound = .empty h.settings.network.writeBufferSize ∨
      ∃ before, h.session? (.connected id) = some before ∧
        (m = .finish ∧ (∃ more, before.outbound.Fills more s.outbound) ∨
          s.outbound.items.length ≤ before.outbound.items.length ∧
            s.outbound.capacity = before.outbound.capacity) := by
  cases step with
  | start =>
      rcases h.session?_connect h.settings.network.writeBufferSize l.peer (.connected id) with
        same | ⟨-, _, made⟩
      · exact .inr ⟨s, same ▸ found, .inr ⟨Nat.le_refl _, rfl⟩⟩
      · rw [made] at found
        cases found
        exact .inl rfl
  | inner | stop | leave => exact .inr ⟨s, found, .inr ⟨Nat.le_refl _, rfl⟩⟩
  | release =>
      rw [Hub.session?_release numbered] at found
      exact .inr ⟨s, found, .inr ⟨Nat.le_refl _, rfl⟩⟩
  | finish _ p =>
      by_cases own : id = l.session
      · subst own
        cases known : h.session? (.connected l.session) with
        | none =>
            rw [Hub.process_of_unknown (Option.map_eq_none_iff.mp known), known] at found
            cases found
        | some before =>
            obtain ⟨after, found', fills⟩ := Hub.process_fills known p
            rw [found'] at found
            cases found
            exact .inr ⟨before, rfl, .inl ⟨rfl, _, fills⟩⟩
      · have other : Origin.connected id ≠ .connected l.session := by simpa using own
        rw [Hub.process_session?_of_ne h p other] at found
        exact .inr ⟨s, found, .inr ⟨Nat.le_refl _, rfl⟩⟩
  | write _ _ c known writer outbound stepped =>
      have before := Hub.session?_of_find? known
      have ids : ({ c.session with outbound } : Session).id = c.session.id := rfl
      rw [Hub.session?_putSession before ids] at found
      split at found
      · next same =>
          cases same
          cases found
          exact .inr ⟨c.session, before, .inr (Writer.length_step stepped)⟩
      · exact .inr ⟨s, found, .inr ⟨Nat.le_refl _, rfl⟩⟩

theorem settings_of_step (step : l.Step h m next later) : later.settings = h.settings := by
  cases step with
  | inner | stop | leave => rfl
  | start => rfl
  | release => rw [Hub.release_eq]
  | finish _ p => exact h.settings_process l.session p
  | write => exact h.settings_putSession ..

theorem within_of_step (numbered : h.table.Numbered) (within : h.Within most) (step : l.Step h m next later) :
    later.Within most where
  fresh := by
    rw [settings_of_step step]
    exact within.fresh
  capacity id s found := by
    rcases session?_of_step numbered step found with made | ⟨before, known, ⟨-, more, filled, -⟩ | ⟨-, same⟩⟩
    · rw [made]
      exact within.fresh
    · rw [filled]
      exact within.capacity id before known
    · rw [same]
      exact within.capacity id before known
  length id s found := by
    rcases session?_of_step numbered step found with
      made | ⟨before, known, ⟨-, more, filled, room⟩ | ⟨fewer, -⟩⟩
    · rw [made]
      exact Nat.zero_le _
    · rw [filled]
      rcases room with rfl | ⟨-, fits⟩
      · rw [Queue.extend_nil]
        exact within.length id before known
      · rw [Queue.extend, List.length_append]
        exact Nat.le_trans fits (within.capacity id before known)
    · exact Nat.le_trans fewer (within.length id before known)

theorem queued_of_step (numbered : h.table.Numbered) (within : h.Within most) (step : l.Step h m next later)
    (id : Nat) : later.queued id ≤ h.queued id + m.added most := by
  cases found : later.session? (.connected id) with
  | none =>
      rw [Hub.queued, found]
      exact Nat.zero_le _
  | some s =>
      have full := (within_of_step numbered within step).length id s found
      rw [Hub.queued_of_found found]
      rcases session?_of_step numbered step found with made | ⟨before, known, ⟨rfl, -⟩ | ⟨fewer, -⟩⟩
      · rw [made]
        exact Nat.zero_le _
      · exact Nat.le_trans full (Nat.le_add_left ..)
      · rw [Hub.queued_of_found known]
        exact Nat.le_add_right_of_le fewer

/-- The same for what is counted as the queue of any line of the node. -/
theorem queued_le (numbered : h.table.Numbered) (within : h.Within most) (step : l.Step h m next later)
    (k : Line) : k.queued most later ≤ k.queued most h + m.added most := by
  unfold queued
  split
  · exact Nat.le_add_right ..
  · exact queued_of_step numbered within step k.session

theorem session_of_step (step : l.Step h m next later) (begun : l.stage ≠ .spawned) :
    next.session = l.session := by
  cases step with
  | start spawned => exact absurd spawned begun
  | inner | release | finish | stop | write | leave => rfl

theorem load_write {move : Writer.Move} (scheduled : move ∈ writerMoves l.writer)
    (stepped : l.write? h move = some moved) (begun : moved.line.stage ≠ .spawned) :
    moved.line.load cost most moved.hub < l.load cost most h := by
  simp only [write?, bind, Option.bind_eq_some_iff] at stepped
  obtain ⟨c, known, ⟨writer, outbound⟩, went, same⟩ := stepped
  cases same
  have before := Hub.session?_of_find? known
  have ids : ({ c.session with outbound } : Session).id = c.session.id := rfl
  have after := Hub.session?_putSession before ids (.connected l.session)
  rw [if_pos rfl] at after
  have less := Writer.toil_step scheduled rfl went
  dsimp only at less
  simp only [load, toil, queued, if_neg begun, Hub.queued_of_found before, Hub.queued_of_found after]
  omega

/-- **What a line does by itself pays for itself**, apart from what a packet that is processed gets queued. -/
theorem load_step (cost : Nat) (numbered : h.table.Numbered) (within : h.Within most)
    (scheduled : m ∈ l.schedule) (stepped : l.step? h m = some moved) :
    moved.line.load cost most moved.hub + m.paid cost ≤ l.load cost most h + 5 * m.added most := by
  by_cases writes : ∃ move, m = .write move
  · obtain ⟨move, rfl⟩ := writes
    have mem : move ∈ writerMoves l.writer := by simpa [schedule] using scheduled
    rcases step?_cases stepped with ⟨same, -⟩ | served
    · cases same
    · exact load_write mem served (step_of_step? stepped).begun
  · have less : moved.line.toil cost + m.paid cost ≤ l.toil cost :=
      toil_step scheduled (fun move same => writes ⟨move, same⟩) stepped
    have step := step_of_step? stepped
    have fewer : moved.line.queued most moved.hub ≤ l.queued most h + m.added most := by
      by_cases spawned : l.stage = .spawned
      · have full := (within_of_step numbered within step).queued_le moved.line.session
        rw [queued, if_neg step.begun, queued, if_pos spawned]
        exact Nat.le_add_right_of_le full
      · have same := session_of_step step spawned
        have more := queued_of_step numbered within step l.session
        rw [queued, if_neg step.begun, queued, if_neg spawned, same]
        exact more
    simp only [load]
    omega

end Line

/-! ## Nodes -/

namespace Node

open Line (load)

variable {n next : Node ε} {h later : Hub ε} {m : Move} {t : Trace ε} {most cost added paid index : Nat}
  {lines : List Line} {l after : Line}

theorem linesToil_le (cost : Nat) (queued : ∀ k : Line, k.queued most later ≤ k.queued most h + added)
    (lines : List Line) :
    linesToil cost most later lines ≤ linesToil cost most h lines + lines.length * (5 * added) := by
  induction lines with
  | nil => exact Nat.zero_le _
  | cons l lines ih =>
      have first := queued l
      simp only [linesToil, load, List.length_cons, Nat.add_mul]
      omega

/-- One line has less to do, and the queues of the others get what is added. -/
theorem linesToil_set (queued : ∀ k : Line, k.queued most later ≤ k.queued most h + added)
    (found : lines[index]? = some l)
    (own : load cost most later after + paid ≤ load cost most h l + 5 * added) :
    linesToil cost most later (lines.set index after) + paid ≤
      linesToil cost most h lines + lines.length * (5 * added) := by
  induction lines generalizing index with
  | nil => simp at found
  | cons first rest ih =>
      cases index with
      | zero =>
          cases found
          have others := linesToil_le cost queued rest
          simp only [List.set_cons_zero, linesToil, List.length_cons, Nat.add_mul]
          omega
      | succ index =>
          have others := ih found
          have here := queued first
          simp only [List.set_cons_succ, linesToil, load, List.length_cons, Nat.add_mul] at others ⊢
          omega

theorem linesToil_append (lines more : List Line) :
    linesToil cost most h (lines ++ more) = linesToil cost most h lines + linesToil cost most h more := by
  induction lines with
  | nil => simp [linesToil]
  | cons l lines ih => simp only [List.cons_append, linesToil, ih, Nat.add_assoc]

theorem linesToil_signal (lines : List Line) :
    linesToil cost most h (lines.map signal) = linesToil cost most h lines := by
  induction lines with
  | nil => rfl
  | cons l lines ih =>
      simp only [List.map_cons, linesToil, ih]
      rfl

theorem mem_lineMoves {start : Nat} (mem : m ∈ lineMoves start lines) :
    (∃ index, m = .part index) ∨
      ∃ index l move, lines[index]? = some l ∧ move ∈ l.schedule ∧ m = .line (start + index) move := by
  induction lines generalizing start with
  | nil => simp [lineMoves] at mem
  | cons l lines ih =>
      rcases List.mem_append.mp mem with own | mem
      · obtain ⟨move, scheduled, rfl⟩ := List.mem_map.mp own
        exact .inr ⟨0, l, move, rfl, scheduled, rfl⟩
      · rcases List.mem_cons.mp mem with rfl | mem
        · exact .inl ⟨start, rfl⟩
        · rcases ih mem with parted | ⟨index, k, move, found, scheduled, rfl⟩
          · exact .inl parted
          · exact .inr ⟨index + 1, k, move, found, scheduled, by rw [Nat.add_assoc, Nat.add_comm 1]⟩

/-- A packet costs more than all that it may get queued, whoever it goes to. -/
structure Priced (cost most : Nat) (n : Node ε) : Prop where
  numbered : n.hub.table.Numbered
  within : n.hub.Within most
  enough : (n.lines.length + n.backlog.length) * (5 * most) < cost

/-- The node has less to do, at the same cost. -/
structure Eased (cost most : Nat) (n next : Node ε) : Prop where
  less : next.toil cost most < n.toil cost most
  priced : next.Priced cost most

theorem eased_permit? (priced : n.Priced cost most) (stepped : n.permit? = some (next, t)) :
    n.Eased cost most next := by
  unfold permit? at stepped
  split at stepped
  · next idle =>
      split at stepped
      · cases stepped
        refine ⟨?_, priced.numbered, priced.within, priced.enough⟩
        simp only [toil, idle, Acceptor.toil]
        omega
      · cases stepped
      · cases stepped
        refine ⟨?_, priced.numbered, priced.within, priced.enough⟩
        simp only [toil, idle, Acceptor.toil, Phase.toil]
        omega
  · cases stepped

/-- A caller counts for three more than its line. -/
theorem load_accept (cost most : Nat) (h : Hub ε) (caller : Caller) :
    load cost most h (Line.accept h.settings caller.peer caller.script) + 3 = caller.toil cost most := by
  simp only [load, Line.toil, Line.queued, Line.accept, Line.Stage.toil, Inlet.unread, Inlet.new,
    List.length_nil, Pipeline.toil, Pipeline.new, Reader.toil, Processor.toil, Queue.empty, Writer.toil,
    Writer.new, Writer.Stage.toil, Caller.toil, List.isEmpty_nil, if_true, Nat.zero_add, Nat.zero_mul]
  omega

theorem eased_accept? (priced : n.Priced cost most) (stepped : n.accept? = some (next, t)) :
    n.Eased cost most next := by
  unfold accept? at stepped
  split at stepped
  · next caller backlog admitted callers =>
      cases stepped
      have enough := priced.enough
      rw [callers, List.length_cons] at enough
      have line := load_accept cost most n.hub caller
      refine ⟨?_, priced.numbered, priced.within, ?_⟩
      · simp only [toil, admitted, callers, Acceptor.toil, callersToil, linesToil_append, linesToil,
          Completion.join, List.length_append, List.length_singleton]
        omega
      · rw [List.length_append, List.length_singleton, Nat.add_assoc, Nat.add_comm 1]
        exact enough
  · cases stepped

theorem eased_part? (priced : n.Priced cost most) (stepped : n.part? index = some next) :
    n.Eased cost most next := by
  unfold part? at stepped
  split at stepped
  · split at stepped
    · next held =>
        cases stepped
        have mem : index ∈ n.completion.lines := by simpa using (Bool.and_eq_true_iff.mp held).2
        have fewer : (n.completion.part index).lines.length < n.completion.lines.length :=
          List.length_filter_lt_length_iff_exists.mpr ⟨index, mem, by simp⟩
        refine ⟨?_, priced.numbered, priced.within, priced.enough⟩
        simp only [toil]
        omega
    · cases stepped
  · cases stepped

theorem eased_line? (priced : n.Priced cost most) {move : Line.Move} (found : n.lines[index]? = some l)
    (scheduled : move ∈ l.schedule) (stepped : n.line? index move = some (next, t)) :
    n.Eased cost most next := by
  simp only [line?, found, bind, Option.bind_eq_some_iff, Option.some.injEq, exists_eq_left'] at stepped
  obtain ⟨moved, went, same⟩ := stepped
  cases same
  obtain ⟨numbered, within, enough⟩ := priced
  have step := Line.step_of_step? went
  have less := linesToil_set (Line.queued_le numbered within step) found
    (Line.load_step cost numbered within scheduled went)
  refine ⟨?_, Outflow.numbered_of_step step numbered, Line.within_of_step numbered within step, ?_⟩
  · have pays : n.lines.length * (5 * move.added most) < move.paid cost := by
      cases move with
      | finish =>
          rw [Nat.add_mul] at enough
          simp only [Line.Move.added, Line.Move.paid]
          omega
      | _ => exact Nat.zero_lt_one
    simp only [toil]
    omega
  · rw [List.length_set]
    exact enough

/-- **A move that the node makes by itself leaves it less to do.** -/
theorem eased_step (priced : n.Priced cost most) (scheduled : m ∈ n.schedule)
    (stepped : n.step? m = some (next, t)) :
    n.Eased cost most next := by
  simp only [schedule, List.mem_append, List.mem_cons, List.not_mem_nil, or_false] at scheduled
  rcases scheduled with (rfl | rfl | rfl | rfl | inner) | rfl
  · exact eased_permit? priced stepped
  · exact eased_accept? priced stepped
  · cases step_of_step? stepped with
    | outer isOuter => cases isOuter
    | signal closing =>
        refine ⟨?_, priced.numbered, priced.within, ?_⟩
        · simp only [toil, closing, Phase.toil, linesToil_signal]
          omega
        · rw [List.length_map]
          exact priced.enough
  · cases step_of_step? stepped with
    | outer isOuter => cases isOuter
    | dismiss signalled =>
        refine ⟨?_, priced.numbered, priced.within, priced.enough⟩
        simp only [toil, signalled, Phase.toil, Completion.dismiss]
        omega
  · rcases mem_lineMoves inner with ⟨index, rfl⟩ | ⟨index, l, move, found, scheduled, rfl⟩
    · obtain ⟨parted, went, same⟩ := Option.map_eq_some_iff.mp stepped
      cases same
      exact eased_part? priced went
    · rw [Nat.zero_add] at stepped
      exact eased_line? priced found scheduled stepped
  · cases step_of_step? stepped with
    | outer isOuter => cases isOuter
    | complete waiting =>
        refine ⟨?_, priced.numbered, priced.within, priced.enough⟩
        simp only [toil, waiting, Phase.toil]
        omega

theorem eased_next? (priced : n.Priced cost most) (moved : n.next? = some (next, t)) :
    n.Eased cost most next := by
  obtain ⟨m, scheduled, stepped⟩ := List.exists_of_findSome?_eq_some moved
  exact eased_step priced scheduled stepped

theorem next?_settleFor (priced : n.Priced cost most) {fuel : Nat} (enough : n.toil cost most ≤ fuel) :
    (settleFor fuel n).1.next? = none := by
  induction fuel generalizing n with
  | zero =>
      cases moved : n.next? with
      | none => exact moved
      | some after =>
          have less := (eased_next? priced moved).less
          omega
  | succ fuel ih =>
      rw [settleFor]
      split
      · next rests => exact rests
      · next after first moved =>
          obtain ⟨less, later⟩ := eased_next? priced moved
          exact ih later (by omega)

theorem exists_run?_settleFor (fuel : Nat) (n : Node ε) :
    ∃ moves, n.run? moves = some (settleFor fuel n) := by
  induction fuel generalizing n with
  | zero => exact ⟨[], rfl⟩
  | succ fuel ih =>
      rw [settleFor]
      split
      · exact ⟨[], rfl⟩
      · next after first moved =>
          obtain ⟨m, -, stepped⟩ := List.exists_of_findSome?_eq_some moved
          obtain ⟨moves, ran⟩ := ih after
          refine ⟨m :: moves, ?_⟩
          simp only [run?, stepped, ran, bind, Option.bind_some, pure]

/-- **A node that is left alone comes to rest**: it settles by moves, and has none left to make by itself. -/
theorem settle_rests (n : Node ε) (numbered : n.hub.table.Numbered) :
    (∃ moves, n.run? moves = some n.settle) ∧ n.settle.1.next? = none := by
  let most := n.hub.mostQueued
  have priced : n.Priced ((n.lines.length + n.backlog.length) * (5 * most) + 1) most :=
    ⟨numbered, n.hub.within_mostQueued, Nat.lt_succ_self _⟩
  exact ⟨exists_run?_settleFor n.patience n, next?_settleFor priced (Nat.le_refl _)⟩

end Node

end Connector
