import Connector.Node
import Connector.Proofs.Following
import Connector.Proofs.Pipelines

/-! The course of a line, from its acceptance on, whatever happens on it and around it.

* `Line.Moves`, `Line.moves_of_step?`: what a move does to the pipeline and to what is still to be read;
* `Line.Course`: what came, what was read and what was processed, event by event;
* `Line.Course.Sound.step`: every packet that was read is processed or underway, in order;
* `Line.Course.packets_in_order`: so it is after any course, and at its end nothing is underway. -/

namespace Connector

open Framing

variable {ε : Type}

/-! ## Reads -/

namespace Line

/-- What the line can read from, until more arrives. -/
def source (l : Line) : Inlet := { l.inlet with script := l.inlet.script ++ [.notReady] }

theorem events_source (l : Line) : Inlet.events l.source.script = Inlet.events l.inlet.script := by
  rw [source, Inlet.events_append]
  exact List.append_nil _

theorem answer?_eq {l : Line} {result : ReadResult} {inlet : Inlet}
    (h : l.answer? = some (result, inlet)) :
    ∃ next, l.source.poll = (some result, next) ∧
      inlet = { next with script := next.script.dropLast } := by
  unfold answer? at h
  split at h
  · cases h
  · next polled =>
      cases h
      exact ⟨_, polled, rfl⟩

/-- A read takes from what came, and returns the packet that comes next if it returns one. -/
theorem follows_answer? {l : Line} {result : ReadResult} {inlet : Inlet} {limit : Nat} {came : Bytes}
    {given : List Packet} (h : l.inlet.Follows limit came given)
    (answered : l.answer? = some (result, inlet)) :
    inlet.Follows limit came (given ++ Inlet.packets [result]) := by
  obtain ⟨next, polled, rfl⟩ := answer?_eq answered
  have ends : l.source.EndsUnready := ⟨_, rfl⟩
  have last := ends.poll (by rw [polled]; nofun)
  have follows := (h.congr rfl rfl (events_source l) : l.source.Follows limit came given).poll
  rw [polled] at last follows
  obtain ⟨script, same⟩ := last
  refine follows.congr rfl rfl ?_
  show Inlet.events next.script.dropLast = Inlet.events next.script
  rw [show next.script = script ++ [.notReady] from same, List.dropLast_concat, Inlet.events_append]
  exact (List.append_nil _).symm

/-! ## Moves -/

/-- What a move gets from the stream. -/
def returns (l : Line) : Move → List Packet
  | .read => Inlet.packets (l.answer?.map (·.1)).toList
  | _ => []

/-- What a move gets done. -/
def processes (l : Line) : Move → List Packet
  | .finish => l.pipeline.current?.toList
  | _ => []

/-- A move takes the pipeline on by one step at most, and only a read takes from the stream. -/
structure Moves (l : Line) (m : Move) (next : Line) : Prop where
  pipeline : next.pipeline = l.pipeline ∧ l.returns m = [] ∧ l.processes m = [] ∨
    ∃ move, l.pipeline.step? move = some next.pipeline ∧ Pipeline.taken move = l.returns m ∧
      l.pipeline.done move = l.processes m
  inlet : next.inlet = l.inlet ∧ l.returns m = [] ∨
    ∃ result, l.answer? = some (result, next.inlet) ∧ l.returns m = Inlet.packets [result]

section

variable {l next : Line} {m : Move} {h : Hub ε} {moved : Moved ε}

theorem Moves.of_same (pipeline : next.pipeline = l.pipeline) (inlet : next.inlet = l.inlet)
    (returns : l.returns m = []) (processes : l.processes m = []) : l.Moves m next :=
  ⟨.inl ⟨pipeline, returns, processes⟩, .inl ⟨inlet, returns⟩⟩

theorem Moves.of_step (move : Pipeline.Move Packet)
    (stepped : l.pipeline.step? move = some next.pipeline ∧ next.inlet = l.inlet)
    (returns : l.returns m = []) (taken : Pipeline.taken move = [])
    (done : l.pipeline.done move = l.processes m) : l.Moves m next :=
  ⟨.inr ⟨move, stepped.1, taken.trans returns.symm, done⟩, .inl ⟨stepped.2, returns⟩⟩

theorem onPipeline_eq {went : Option (Pipeline Packet)} (stepped : l.onPipeline h went = some moved) :
    went = some moved.line.pipeline ∧ moved.line.inlet = l.inlet := by
  obtain ⟨pipeline, found, rfl⟩ := Option.map_eq_some_iff.mp stepped
  exact ⟨found, rfl⟩

theorem quit?_eq {ending : Ending} (stepped : l.quit? h ending = some moved) :
    l.pipeline.step? .quit = some moved.line.pipeline ∧ moved.line.inlet = l.inlet := by
  obtain ⟨pipeline, found, rfl⟩ := Option.map_eq_some_iff.mp stepped
  exact ⟨found, rfl⟩

theorem Moves.of_read (move : Pipeline.Move Packet) {result : ReadResult} {inlet : Inlet}
    (answered : l.answer? = some (result, inlet))
    (stepped : l.pipeline.step? move = some next.pipeline ∧ next.inlet = inlet)
    (taken : Pipeline.taken move = Inlet.packets [result]) (done : l.pipeline.done move = []) :
    l.Moves .read next := by
  obtain ⟨stepped, rfl⟩ := stepped
  have returns : l.returns .read = Inlet.packets [result] := by
    rw [Line.returns, answered]
    rfl
  exact ⟨.inr ⟨move, stepped, taken.trans returns.symm, done⟩, .inr ⟨result, answered, returns⟩⟩

theorem moves_of_read? (stepped : l.read? h = some moved) : l.Moves .read moved.line := by
  unfold read? at stepped
  split at stepped
  · cases stepped
  · next p inlet answered => exact .of_read (.take p) answered (onPipeline_eq stepped) rfl rfl
  · next inlet answered => exact .of_read .quit answered (quit?_eq stepped) rfl rfl
  · next cause inlet answered => exact .of_read .quit answered (quit?_eq stepped) rfl rfl

theorem finish?_eq (stepped : l.finish? h = some moved) :
    ∃ p, l.pipeline.current? = some p ∧ moved.hub = (h.process l.session p).1 ∧
      l.pipeline.step? .finish = some moved.line.pipeline ∧ moved.line.inlet = l.inlet := by
  simp only [finish?, bind, Option.bind_eq_some_iff] at stepped
  obtain ⟨p, current, pipeline, finished, same⟩ := stepped
  cases same
  exact ⟨p, current, rfl, finished, rfl⟩

theorem moves_of_write? {move : Writer.Move} (stepped : l.write? h move = some moved) :
    l.Moves (.write move) moved.line := by
  simp only [write?, bind, Option.bind_eq_some_iff] at stepped
  obtain ⟨c, found, ⟨writer, outbound⟩, written, same⟩ := stepped
  cases same
  exact .of_same rfl rfl rfl rfl

theorem moves_of_serve? (stepped : l.serve? h m = some moved) : l.Moves m moved.line := by
  cases m with
  | start => cases stepped
  | read => exact moves_of_read? stepped
  | timeOut =>
      simp only [serve?, timeOut?] at stepped
      split at stepped
      · exact .of_step .quit (quit?_eq stepped) rfl rfl rfl
      · cases stepped
  | notice =>
      simp only [serve?, notice?] at stepped
      split at stepped
      · cases stepped
      · have quit := quit?_eq stepped
        exact .of_step .quit quit rfl rfl rfl
  | look => exact .of_step .look (onPipeline_eq stepped) rfl rfl rfl
  | push => exact .of_step .push (onPipeline_eq stepped) rfl rfl rfl
  | detach => exact .of_step .detach (onPipeline_eq stepped) rfl rfl rfl
  | cancel => exact .of_step .cancel (onPipeline_eq stepped) rfl rfl rfl
  | join => exact .of_step .join (onPipeline_eq stepped) rfl rfl rfl
  | receive => exact .of_step .receive (onPipeline_eq stepped) rfl rfl rfl
  | drain => exact .of_step .drain (onPipeline_eq stepped) rfl rfl rfl
  | release =>
      obtain ⟨pipeline, found, rfl⟩ := Option.map_eq_some_iff.mp stepped
      exact .of_step .release ⟨found, rfl⟩ rfl rfl rfl
  | finish =>
      obtain ⟨p, -, -, went⟩ := finish?_eq stepped
      exact .of_step .finish went rfl rfl rfl
  | stop =>
      simp only [serve?, stop?] at stepped
      split at stepped
      all_goals cases stepped
      exact .of_same rfl rfl rfl rfl
  | write move => exact moves_of_write? stepped
  | leave =>
      simp only [serve?, leave?] at stepped
      split at stepped
      all_goals cases stepped
      exact .of_same rfl rfl rfl rfl

theorem step?_cases (stepped : l.step? h m = some moved) :
    m = .start ∧ l.start? h = some moved ∨ l.serve? h m = some moved := by
  unfold step? at stepped
  split at stepped
  · exact .inl ⟨rfl, stepped⟩
  · cases stepped
  · cases stepped
  · exact .inr stepped

theorem moves_of_step? (stepped : l.step? h m = some moved) : l.Moves m moved.line := by
  rcases step?_cases stepped with ⟨rfl, started⟩ | served
  · unfold start? at started
    split at started
    all_goals cases started
    exact .of_same rfl rfl rfl rfl
  · exact moves_of_serve? served

end

/-! ## Courses -/

/-- What happens on a line and around it. -/
inductive Event (ε : Type) where
  | move (m : Move)
  /-- A read has to wait and is given up. What it took from the stream stays in the buffer. -/
  | giveUp
  /-- The client's stream gives something more. -/
  | arrive (a : Arrival)
  /-- The node sends the shutdown signal. -/
  | signal
  /-- Others are at work in the hub. -/
  | elsewhere (hub : Hub ε)

/-- A line within its hub, with the octets that came, the packets that its reads returned and those that
were processed. -/
structure Course (ε : Type) where
  line : Line
  hub : Hub ε
  came : Bytes
  returned : List Packet
  processed : List Packet

/-- Only a line that reads can give up a read. -/
def giveUp? (l : Line) : Option Line :=
  match l.pipeline.look?, l.source.poll with
  | some _, (none, inlet) => some { l with inlet }
  | _, _ => none

namespace Course

/-- A line that is accepted. Its stream may have given something before. -/
def new (settings : Settings) (peer : Address) (script : List Arrival) (hub : Hub ε) : Course ε :=
  ⟨.accept settings peer script, hub, Inlet.received (Inlet.events script), [], []⟩

def step? (c : Course ε) : Event ε → Option (Course ε)
  | .move m =>
      (c.line.step? c.hub m).map fun moved =>
        { c with
          line := moved.line
          hub := moved.hub
          returned := c.returned ++ c.line.returns m
          processed := c.processed ++ c.line.processes m }
  | .giveUp => c.line.giveUp?.map fun line => { c with line }
  | .arrive a =>
      some { c with line := c.line.arrive a, came := c.came ++ Inlet.received (Inlet.events [a]) }
  | .signal => some { c with line := Node.signal c.line }
  | .elsewhere hub => some { c with hub }

def run? (c : Course ε) (es : List (Event ε)) : Option (Course ε) := es.foldlM step? c

/-- What holds after any course under some settings. -/
structure Sound (network : NetworkSettings) (c : Course ε) : Prop where
  pipeline : c.line.pipeline.Sound network.packetBufferSize
  order : c.processed ++ c.line.pipeline.underway = c.returned
  follows : c.line.inlet.Follows network.maxPackageSize c.came c.returned

theorem sound_new (settings : Settings) (peer : Address) (script : List Arrival) (hub : Hub ε) :
    (new settings peer script hub).Sound settings.network where
  pipeline := Pipeline.sound_new _
  order := rfl
  follows := ⟨rfl, [], rfl, [], rfl⟩

variable {network : NetworkSettings} {c next : Course ε}

theorem Sound.move (sound : c.Sound network) {m : Move} (h : c.step? (.move m) = some next) :
    next.Sound network := by
  obtain ⟨moved, stepped, rfl⟩ := Option.map_eq_some_iff.mp h
  obtain ⟨pipeline, inlet⟩ := moves_of_step? stepped
  refine ⟨?_, ?_, ?_⟩
  · rcases pipeline with ⟨same, -, -⟩ | ⟨move, went, -, -⟩
    · exact same ▸ sound.pipeline
    · exact sound.pipeline.step (Pipeline.step_of_step? went)
  · rcases pipeline with ⟨same, returns, processes⟩ | ⟨move, went, taken, done⟩
    · simp only [same, returns, processes, List.append_nil]
      exact sound.order
    -- Order is kept as long as the queue is open for a packet that waits, and it is.
    · have order := Pipeline.underway_step sound.pipeline.open_of_holding went
      rw [taken, done] at order
      simp only [List.append_assoc, order]
      rw [← List.append_assoc, sound.order]
  · rcases inlet with ⟨same, returns⟩ | ⟨result, answered, returns⟩
    · simp only [same, returns, List.append_nil]
      exact sound.follows
    · simp only [returns]
      exact follows_answer? sound.follows answered

theorem Sound.giveUp (sound : c.Sound network) (h : c.step? .giveUp = some next) : next.Sound network := by
  obtain ⟨line, gaveUp, rfl⟩ := Option.map_eq_some_iff.mp h
  unfold giveUp? at gaveUp
  split at gaveUp
  · next inlet _ polled =>
      cases gaveUp
      have follows := (sound.follows.congr rfl rfl (events_source c.line) :
        c.line.source.Follows network.maxPackageSize c.came c.returned).poll
      rw [polled] at follows
      exact ⟨sound.pipeline, sound.order, by simpa [Inlet.packets] using follows⟩
  · cases gaveUp

theorem Sound.step (sound : c.Sound network) {e : Event ε} (h : c.step? e = some next) :
    next.Sound network := by
  cases e with
  | move m => exact sound.move h
  | giveUp => exact sound.giveUp h
  | arrive a =>
      cases h
      exact ⟨sound.pipeline, sound.order, sound.follows.arrive [a]⟩
  | signal =>
      cases h
      exact ⟨sound.pipeline, sound.order, sound.follows⟩
  | elsewhere hub =>
      cases h
      exact ⟨sound.pipeline, sound.order, sound.follows⟩

theorem Sound.run (sound : c.Sound network) {es : List (Event ε)} (h : c.run? es = some next) :
    next.Sound network := by
  induction es generalizing c with
  | nil =>
      cases h
      exact sound
  | cons e es ih =>
      rw [run?, List.foldlM_cons] at h
      obtain ⟨first, stepped, rest⟩ := Option.bind_eq_some_iff.mp h
      exact ih (sound.step stepped) rest

/-- Where the list of processed packets grows, the hub processes the packet. -/
theorem processed_step {e : Event ε} (h : c.step? e = some next) :
    next.processed = c.processed ∨ ∃ p, next.processed = c.processed ++ [p] ∧
      next.hub = (c.hub.process c.line.session p).1 := by
  cases e with
  | giveUp =>
      obtain ⟨line, -, rfl⟩ := Option.map_eq_some_iff.mp h
      exact .inl rfl
  | arrive | signal | elsewhere =>
      cases h
      exact .inl rfl
  | move m =>
      obtain ⟨moved, stepped, rfl⟩ := Option.map_eq_some_iff.mp h
      cases m with
      | finish =>
          rcases step?_cases stepped with ⟨other, -⟩ | served
          · cases other
          · obtain ⟨p, current, hub, -⟩ := finish?_eq served
            refine .inr ⟨p, ?_, hub⟩
            rw [processes, current]
            rfl
      | _ => exact .inl (List.append_nil _)

/-- **Packets are processed once each, in the order in which they came.** Whatever happens on a line and around
it, and in whatever order, the packets that were processed, the one that is worked on, the queue and the one
that waits for room are those that its reads returned, and these are the first that the framing gives. The
queue keeps within its capacity. When the processor has ended the reader has let go of the queue, and every
packet that was read is processed. -/
theorem packets_in_order (settings : Settings) (peer : Address) (script : List Arrival) (hub : Hub ε)
    (es : List (Event ε)) (c : Course ε) (ran : (new settings peer script hub).run? es = some c) :
    let p := c.line.pipeline
    c.processed ++ (p.current?.toList ++ p.queue.items ++ Pipeline.held p.reader) = c.returned ∧
    c.returned <+: (drain settings.network.maxPackageSize c.came).packets ∧
    p.queue.items.length ≤ settings.network.packetBufferSize ∧
    (p.isExited = true → p.isDetached = true ∧ c.processed = c.returned) ∧
    ∀ e next, c.step? e = some next →
      next.processed = c.processed ∨ ∃ q, next.processed = c.processed ++ [q] ∧
        next.hub = (c.hub.process c.line.session q).1 := by
  intro p
  have sound : c.Sound settings.network := (sound_new settings peer script hub).run ran
  refine ⟨sound.order, sound.follows.in_order, sound.pipeline.fits, ?_, ?_⟩
  · intro ended
    refine ⟨(sound.pipeline.exited ended).2, ?_⟩
    rw [← sound.order, sound.pipeline.underway_of_exited ended, List.append_nil]
  · intro e next stepped
    exact processed_step stepped

/-- A client acknowledges after a heartbeat and goes away. What is queued then is processed, and second. -/
theorem packets_in_order_of_two :
    let hub : Hub Unit := ⟨{}, ⟨.empty "chat", .empty 1⟩, .empty, [], 0⟩
    let start := new {} ⟨.v4 127 0 0 1, 3250⟩ [] hub
    let es := [.move .start, .arrive (.octets [3, 0]), .giveUp, .arrive (.octets [0, 0, 2, 0, 0, 0]),
      .move .read, .move .push, .move .receive, .move .read, .move .push, .arrive (.octets []),
      .move .read, .move .release, .move .finish, .move .detach, .move .cancel, .move .drain,
      .move .receive, .move .finish, .move .receive]
    ∃ c, start.run? es = some c ∧ c.line.pipeline.isExited = true ∧
      c.returned = [⟨.heartbeat, []⟩, ⟨.handshakeAck, []⟩] ∧ c.processed = c.returned := by
  intro hub start es
  have ran : (start.run? es).map (fun c => (c.line.pipeline.isExited, c.returned)) =
      some (true, [⟨.heartbeat, []⟩, ⟨.handshakeAck, []⟩]) := by
    decide +kernel
  obtain ⟨c, ran, same⟩ := Option.map_eq_some_iff.mp ran
  obtain ⟨ended, returned⟩ := Prod.mk.inj same
  obtain ⟨-, -, -, whole, -⟩ := packets_in_order {} _ [] hub es c ran
  exact ⟨c, ran, ended, returned, (whole ended).2⟩

end Course

end Line

end Connector
