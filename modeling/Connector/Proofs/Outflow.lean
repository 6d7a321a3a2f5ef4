import Connector.Proofs.Filling
import Connector.Proofs.Lines
import Connector.Proofs.Sessions
import Connector.Proofs.Writers

/-! The way of a buffer from the queue of a session to its client.

* `Outflow`: a line in its hub, with those who send to its client, and what the queue accepted of that;
* `Outflow.flown_of_step`: what one move of the line does to the queue and the writer;
* `Outflow.writes_all_in_order`: what was accepted is written in order, and all of it unless a write fails. -/

namespace Connector

variable {ε : Type}

/-! ## A writer within its line -/

/-- A line in its hub, with the buffers that the queue of its session accepted so far, and whether the
client's stream ever failed. -/
structure Outflow (ε : Type) where
  line : Line
  hub : Hub ε
  accepted : List Bytes
  failed : Bool

namespace Outflow

inductive Event (ε : Type) where
  | move (m : Line.Move)
  /-- Someone who has the session sends. -/
  | send (octets : Bytes)
  /-- The client's stream gives something more. -/
  | arrive (a : Arrival)
  /-- The node sends the shutdown signal. -/
  | signal
  /-- Others are at work in the hub. -/
  | elsewhere (hub : Hub ε)

/-- The queue of the line's session, once it has one. -/
def queue? (l : Line) (h : Hub ε) : Option (Queue Bytes) :=
  (h.session? (.connected l.session)).map (·.outbound)

/-- A line that is accepted. -/
def new (settings : Settings) (peer : Address) (script : List Arrival) (hub : Hub ε) : Outflow ε :=
  ⟨.accept settings peer script, hub, [], false⟩

/-- The buffers that a move gets into the queue: those whose sends succeed while a packet is processed. -/
def accepts (l : Line) (h : Hub ε) : Line.Move → List Bytes
  | .finish =>
      match l.pipeline.current? with
      | some p => h.sent l.session p
      | none => []
  | _ => []

/-- Others leave the queue alone. -/
def step? (o : Outflow ε) : Event ε → Option (Outflow ε)
  | .move m =>
      (o.line.step? o.hub m).map fun moved =>
        { line := moved.line
          hub := moved.hub
          accepted := o.accepted ++ accepts o.line o.hub m
          failed := o.failed || m = .write .fail }
  | .send octets =>
      if o.line.stage = .spawned then none
      else
        let (hub, outcome) := o.hub.onSession (.connected o.line.session) (·.send octets)
        some { o with hub, accepted := o.accepted ++ if outcome.any (·.isOk) then [octets] else [] }
  | .arrive a => some { o with line := o.line.arrive a }
  | .signal => some { o with line := Node.signal o.line }
  | .elsewhere hub =>
      if hub.table.Numbered ∧ queue? o.line hub = queue? o.line o.hub then some { o with hub } else none

def run? (o : Outflow ε) (es : List (Event ε)) : Option (Outflow ε) := es.foldlM step? o

/-- Whether the writer of a line was told to stop. -/
def isTold (l : Line) : Bool := l.stage = .stopping ∨ l.stage = .left

/-- What holds of a line in its hub. Before it begins nobody can send anything to its client. -/
structure Flows (l : Line) (h : Hub ε) (accepted : List Bytes) (failed : Bool) : Prop where
  fresh : l.stage = .spawned → l.writer = .new ∧ accepted = [] ∧ failed = false
  begun : l.stage ≠ .spawned →
    ∃ q, queue? l h = some q ∧ Writer.Flow ⟨accepted, failed, true, isTold l⟩ l.writer q

section

variable {l after : Line} {h later : Hub ε} {m : Line.Move}

theorem numbered_of_step (step : l.Step h m after later) (numbered : h.table.Numbered) :
    later.table.Numbered := by
  cases step with
  | start => exact Hub.numbered_after numbered (.connect _ _)
  | release => exact Hub.numbered_after numbered (.release _)
  | finish _ p => exact Hub.numbered_after numbered (.packet _ p)
  | write => exact Hub.numbered_putSession numbered _ _
  | inner | stop | leave => exact numbered

theorem queue?_eq_some {s : Session} (found : h.session? (.connected l.session) = some s) :
    queue? l h = some s.outbound := by
  rw [queue?, found]
  rfl

theorem queue?_start (numbered : h.table.Numbered) (capacity : Nat) (peer : Address) {l : Line}
    (own : l.session = (h.connect capacity peer).2.1.id) :
    queue? l (h.connect capacity peer).1 = some (.empty capacity) := by
  have made := numbered.find?_created capacity peer h.now
  have found : (h.connect capacity peer).1.session? (.connected l.session) =
      some (Session.new h.table.nextId capacity) := by
    rw [own]
    exact congrArg (Option.map (·.session)) made
  exact queue?_eq_some found

end

section

variable {l after : Line} {h later : Hub ε} {m : Line.Move} {q : Queue Bytes} {accepted more : List Bytes}
  {failed : Bool}

/-- What is known of the queue once a move was made. -/
def Flown (l : Line) (h : Hub ε) (accepted : List Bytes) (failed : Bool) (m : Line.Move) (after : Line)
    (later : Hub ε) : Prop :=
  ∃ q, queue? after later = some q ∧
    Writer.Flow
      ⟨accepted ++ accepts l h m, failed || m = .write .fail, true, isTold after⟩ after.writer q

/-- A move that does nothing to the queue but to offer buffers to it. -/
theorem flown_of_fills {rest : Queue Bytes} (quiet : m ≠ .write .fail)
    (found' : queue? after later = some rest) (fills : q.Fills (accepts l h m) rest)
    (flow : Writer.Flow ⟨accepted, failed, true, isTold l⟩ l.writer q) (writer : after.writer = l.writer)
    (stays : isTold l = true → isTold after = true) : Flown l h accepted failed m after later := by
  refine ⟨rest, found', ?_⟩
  rw [decide_eq_false quiet, Bool.or_false, writer]
  exact (flow.turn id stays).fill rfl fills

theorem flown_of_write {c : Connection} {move : Writer.Move} {writer : Writer} {outbound : Queue Bytes}
    (serves : l.Serves) (found : h.table.find? l.session = some c)
    (stepped : l.writer.step? ⟨c.session.outbound, true, l.stage = .stopping⟩ move =
      some (writer, outbound))
    (known : queue? l h = some q)
    (flow : Writer.Flow ⟨accepted, failed, true, isTold l⟩ l.writer q) :
    Flown l h accepted failed (.write move) { l with writer }
      (h.putSession (.connected l.session) { c.session with outbound }) := by
  have session : h.session? (.connected l.session) = some c.session := by rw [Hub.session?, found]; rfl
  obtain rfl : c.session.outbound = q := Option.some.inj ((queue?_eq_some session).symm.trans known)
  have put : queue? { l with writer } (h.putSession (.connected l.session) { c.session with outbound }) =
      some outbound := by
    have same : ({ c.session with outbound } : Session).id = c.session.id := rfl
    have found' := Hub.session?_putSession session same (.connected l.session)
    rw [if_pos rfl] at found'
    exact queue?_eq_some found'
  refine ⟨_, put, ?_⟩
  have told : isTold l = decide (l.stage = .stopping) := by simp [isTold, serves.2]
  have told' : isTold { l with writer } = decide (l.stage = .stopping) := told
  have silent : accepts l h (.write move) = [] := rfl
  rw [silent, List.append_nil, told']
  rw [told] at flow
  have moved := flow.step stepped
  cases move with
  | fail => simpa [Writer.Account.after] using moved
  | receive | stop | write | hand | flushed => simpa [Writer.Account.after] using moved

theorem flown_of_step (step : l.Step h m after later) (numbered : h.table.Numbered)
    (flows : Flows l h accepted failed) : Flown l h accepted failed m after later := by
  cases step with
  | start spawned =>
      obtain ⟨writer, rfl, rfl⟩ := flows.fresh spawned
      have found := queue?_start numbered h.settings.network.writeBufferSize l.peer
        (l := { l with
          stage := .serving
          session := (h.connect h.settings.network.writeBufferSize l.peer).2.1.id }) rfl
      refine ⟨_, found, ?_⟩
      rw [writer]
      exact Writer.flow_new h.settings.network.writeBufferSize true false
  | inner serves isInner latch inlet looked move other pipeline =>
      obtain ⟨q, found, flow⟩ := flows.begun serves.1
      have quiet : m ≠ .write .fail := by
        rintro rfl
        exact isInner
      have silent : accepts l h m = [] := by
        cases m with
        | finish => exact isInner.elim
        | _ => rfl
      exact flown_of_fills quiet found (silent ▸ .refl q) flow rfl id
  | release serves pipeline =>
      obtain ⟨q, found, flow⟩ := flows.begun serves.1
      have found' : queue? { l with pipeline } (h.release l.session).1 = some q := by
        rw [queue?, Hub.session?_release numbered]
        exact found
      exact flown_of_fills (by simp) found' (.refl q) flow rfl id
  | finish serves p current pipeline =>
      obtain ⟨q, found, flow⟩ := flows.begun serves.1
      obtain ⟨s, session, rfl⟩ := Option.map_eq_some_iff.mp found
      obtain ⟨s', session', fills⟩ := Hub.process_fills session p
      have gained : accepts l h .finish = h.sent l.session p := by rw [accepts, current]
      exact flown_of_fills (by simp) (queue?_eq_some session') (gained ▸ fills) flow rfl id
  | stop serving joined =>
      obtain ⟨q, found, flow⟩ := flows.begun (by simp [serving])
      exact flown_of_fills (by simp) found (.refl q) flow rfl fun _ => rfl
  | write serves move c found writer outbound stepped =>
      obtain ⟨q, known, flow⟩ := flows.begun serves.1
      exact flown_of_write serves found stepped known flow
  | leave stopping exited =>
      obtain ⟨q, found, flow⟩ := flows.begun (by simp [stopping])
      exact flown_of_fills (by simp) found (.refl q) flow rfl fun _ => rfl

end

/-- What holds after any events. -/
structure Sound (o : Outflow ε) : Prop where
  numbered : o.hub.table.Numbered
  line : o.line.Sound
  flows : Flows o.line o.hub o.accepted o.failed

theorem sound_new (settings : Settings) (peer : Address) (script : List Arrival) {hub : Hub ε}
    (numbered : hub.table.Numbered) : (new settings peer script hub).Sound where
  numbered := numbered
  line := Line.sound_accept settings peer script
  flows := ⟨fun _ => ⟨rfl, rfl, rfl⟩, fun begun => absurd rfl begun⟩

variable {o next : Outflow ε}

theorem Sound.step (sound : o.Sound) {e : Event ε} (h : o.step? e = some next) : next.Sound := by
  obtain ⟨numbered, line, flows⟩ := sound
  cases e with
  | move m =>
      obtain ⟨moved, stepped, rfl⟩ := Option.map_eq_some_iff.mp h
      have step := Line.step_of_step? stepped
      refine ⟨numbered_of_step step numbered, line.step step, ?_, ?_⟩
      · intro spawned
        exact absurd spawned step.begun
      · intro _
        exact flown_of_step step numbered flows
  | send octets =>
      simp only [step?] at h
      split at h
      · cases h
      · next begun =>
          cases h
          refine ⟨Hub.numbered_onSession numbered .., line, fun spawned => absurd spawned begun, ?_⟩
          intro _
          obtain ⟨q, found, flow⟩ := flows.begun begun
          obtain ⟨s, session, rfl⟩ := Option.map_eq_some_iff.mp found
          have told : o.hub.onSession (.connected o.line.session) (·.send octets) =
              (o.hub.putSession (.connected o.line.session) (s.send octets).1, some (s.send octets).2) := by
            simp only [Hub.onSession, session]
          have put := Hub.session?_putSession session (s.id_send octets) (.connected o.line.session)
          rw [if_pos rfl] at put
          rw [told]
          exact ⟨_, queue?_eq_some put, flow.fill rfl (s.send_fills octets)⟩
  | arrive a =>
      cases h
      exact ⟨numbered, line.arrive a, flows.fresh, flows.begun⟩
  | signal =>
      cases h
      exact ⟨numbered, line.signal, flows.fresh, flows.begun⟩
  | elsewhere hub =>
      obtain ⟨⟨numbered', same⟩, h⟩ := Option.ite_none_right_eq_some.mp h
      cases h
      refine ⟨numbered', line, flows.fresh, fun begun => ?_⟩
      obtain ⟨q, found, flow⟩ := flows.begun begun
      exact ⟨q, same.trans found, flow⟩

theorem Sound.run (sound : o.Sound) {es : List (Event ε)} (h : o.run? es = some next) : next.Sound := by
  induction es generalizing o with
  | nil =>
      cases h
      exact sound
  | cons e es ih =>
      rw [run?, List.foldlM_cons] at h
      obtain ⟨first, stepped, rest⟩ := Option.bind_eq_some_iff.mp h
      exact ih (sound.step stepped) rest

/-! ## Runs -/

/-- **What was accepted is written in order, and all of it unless a write fails.** First for a writer
beside a session whose other users send and go away, and which is told to stop, at any time: what it
handed out is at all times the front of what the queue accepted, and if no write failed it is all of that,
with nothing kept back, when the writer closes the client's stream. Then the same for a line in its hub,
whatever else happens there. Its writer is told to stop only once the processor has ended. Until then the
queue is open unless a write failed, so what the processing of the last packets puts there is written as
well, before the line is over. -/
theorem writes_all_in_order :
    (∀ (id capacity : Nat) (moves : List Outlet.Move) (o : Outlet) (accepted : List Bytes),
      Outlet.run? ⟨.new id capacity, .new, true, false⟩ moves = some (o, accepted) →
        o.writer.handed <+: accepted.flatten ∧
        (.write .fail ∉ moves → o.writer.stage = .closing ∨ o.writer.stage = .exited →
          o.writer.handed = accepted.flatten ∧ o.writer.kept = [])) ∧
    ∀ (settings : Settings) (peer : Address) (script : List Arrival) (hub : Hub ε),
      hub.table.Numbered → ∀ (es : List (Event ε)) (o : Outflow ε),
        (new settings peer script hub).run? es = some o →
          o.line.writer.handed <+: o.accepted.flatten ∧
          (o.failed = false → o.line.writer.stage = .closing ∨ o.line.writer.stage = .exited →
            o.line.writer.handed = o.accepted.flatten ∧ o.line.writer.kept = []) ∧
          (isTold o.line = true → o.line.pipeline.isExited = true) ∧
          (o.failed = false → o.line.stage ≠ .spawned → o.line.pipeline.isExited = false →
            ∃ q, queue? o.line o.hub = some q ∧ q.closed = false) ∧
          (o.failed = false → o.line.stage = .left → o.line.writer.handed = o.accepted.flatten) := by
  refine ⟨?_, ?_⟩
  · intro id capacity moves o accepted ran
    have flow := Outlet.flow_run (Writer.flow_new capacity true false) ran
    refine ⟨flow.handed_prefix, fun unfailed ended => flow.handed_eq ended ?_⟩
    simpa using unfailed
  · intro settings peer script hub numbered es o ran
    obtain ⟨-, line, flows⟩ := (sound_new settings peer script numbered).run ran
    have exited : isTold o.line = true → o.line.pipeline.isExited = true := by
      intro told
      have joined := line.joined (of_decide_eq_true told)
      rw [Pipeline.isExited, line.exited joined]
    by_cases spawned : o.line.stage = .spawned
    · obtain ⟨writer, none, -⟩ := flows.fresh spawned
      rw [writer, none]
      exact ⟨List.nil_prefix, fun _ _ => ⟨rfl, rfl⟩, exited, fun _ begun => absurd spawned begun,
        fun _ _ => rfl⟩
    · obtain ⟨q, found, flow⟩ := flows.begun spawned
      refine ⟨flow.handed_prefix, fun unfailed ended => flow.handed_eq ended unfailed, exited, ?_, ?_⟩
      · intro unfailed _ working
        refine ⟨q, found, Bool.eq_false_iff.mpr fun closed => ?_⟩
        rw [exited (flow.told_of_closed unfailed rfl closed)] at working
        cases working
      · intro unfailed left
        have stage : o.line.writer.stage = .exited := by
          have finished := line.left left
          unfold Writer.isExited at finished
          split at finished
          · assumption
          · cases finished
        exact (flow.handed_eq (.inr stage) unfailed).1

/-- A writer is told to stop with two buffers still in its queue. In a line, a request is worked on when
its client has long gone, and its response is written. -/
theorem writes_all_in_order_of_request :
    let sending := [.send [1, 2], .send [3], .stop, .write .stop, .leave, .write .receive, .write (.write 2),
      .write .flushed, .write .receive, .write (.write 1), .write .flushed, .write .receive,
      .write (.hand 3), .write .flushed]
    let join : Entry (Method Unit) := ⟨"Join", fun _ body => .respond body fun _ => .done, 0⟩
    let hub : Hub Unit := ⟨{}, ⟨⟨"chat", [⟨"Room", "Room", [join]⟩], .empty⟩, .empty 1⟩, .empty, [], 0⟩
    let asked := [4, 0, 0, 18, 0, 7, 14, 99, 104, 97, 116, 46, 82, 111, 111, 109, 46, 74, 111, 105, 110, 1]
    let es := [.move .start, .arrive (.octets asked), .move .read, .move .push, .arrive (.octets [])] ++
      [.read, .release, .detach, .cancel, .drain, .receive, .finish, .receive, .join, .stop, .write .stop,
        .write .receive, .write (.write 7), .write .flushed, .write .receive, .write (.hand 7),
        .write .flushed, .write .flushed, .leave].map .move
    (∃ o, Outlet.run? ⟨.new 1 2, .new, true, false⟩ sending = some (o, [[1, 2], [3]]) ∧
      o.writer.handed = [1, 2, 3]) ∧
    hub.table.Numbered ∧ ∃ o, (new {} ⟨.v4 127 0 0 1, 3250⟩ [] hub).run? es = some o ∧
      o.line.stage = .left ∧ o.line.writer.handed = [4, 0, 0, 3, 4, 7, 1] := by
  intro sending join hub asked es
  have numbered : hub.table.Numbered := rfl
  obtain ⟨writer, line⟩ := @writes_all_in_order Unit
  refine ⟨?_, numbered, ?_⟩
  · have ran : (Outlet.run? ⟨.new 1 2, .new, true, false⟩ sending).map
        (fun p => (p.1.writer.stage, p.2)) = some (.closing, [[1, 2], [3]]) := by
      decide +kernel
    obtain ⟨⟨o, accepted⟩, ran, same⟩ := Option.map_eq_some_iff.mp ran
    obtain ⟨stage, rfl⟩ := Prod.mk.inj same
    exact ⟨o, ran, ((writer 1 2 sending o _ ran).2 (by decide) (.inl stage)).1⟩
  · have ran : ((new {} ⟨.v4 127 0 0 1, 3250⟩ [] hub).run? es).map
        (fun o => (o.line.stage, o.failed, o.accepted)) =
          some (.left, false, [[4, 0, 0, 3, 4, 7, 1]]) := by
      decide +kernel
    obtain ⟨o, ran, same⟩ := Option.map_eq_some_iff.mp ran
    obtain ⟨stage, unfailed, accepted⟩ :
        o.line.stage = .left ∧ o.failed = false ∧ o.accepted = _ := by
      simpa using same
    obtain ⟨-, -, -, -, all⟩ := line {} _ [] hub numbered es o ran
    rw [accepted] at all
    exact ⟨o, ran, stage, all unfailed stage⟩

end Outflow

end Connector
