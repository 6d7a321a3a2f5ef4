import Connector.Node
import Connector.Proofs.Pipelines

/-! What one move makes of a line and its hub, and what holds of a line after any moves.

* `Line.Step`, `Line.step_of_step?`: the changes that moves make;
* `Line.Sound`, `Line.Sound.step`: a line takes its parts down in order: the writer is told to stop only once
  the processor has ended, and the line is over only once the writer has. -/

namespace Connector

variable {ε : Type}

/-! ## Pipelines at their end -/

namespace Pipeline

variable {α : Type} {p q : Pipeline α} {move : Move α}

/-- Nobody moves any more. -/
theorem not_step?_of_joined (joined : p.reader = .joined) (exited : p.processor = .exited) :
    p.step? move = none := by
  obtain ⟨reader, queue, processor⟩ := p
  subst joined exited
  cases move <;> simp [step?, take?, look?, push?, quit?, release?, detach?, cancel?, join?, receive?,
    finish?, drain?]

/-- The processor is seen to end only once it has. -/
theorem exited_of_joined (stepped : p.step? move = some q)
    (before : p.reader = .joined → p.processor = .exited) (joined : q.reader = .joined) :
    q.processor = .exited := by
  by_cases already : p.reader = .joined
  · rw [not_step?_of_joined already (before already)] at stepped
    cases stepped
  · cases move with
    | join =>
        simp only [step?, join?] at stepped
        split at stepped
        · next exited =>
            cases stepped
            exact exited
        · cases stepped
    | push =>
        obtain ⟨a, -, ⟨-, rfl⟩ | rfl⟩ := push_cases stepped
        · cases joined
        · cases joined
    | take | look | quit | release | detach | cancel =>
        simp only [step?, take?, look?, quit?, release?, detach?, cancel?] at stepped
        split at stepped
        · cases stepped
          simp_all
        · cases stepped
    | receive | finish | drain =>
        simp only [step?, receive?, finish?, drain?] at stepped
        repeat' split at stepped
        all_goals cases stepped
        all_goals exact absurd joined already

/-- Only a release takes the reader past the end of its reading. -/
theorem stage_lt_of_step? (stepped : p.step? move = some q) (other : move ≠ .release)
    (before : p.reader.stage < 2) : q.reader.stage < 2 := by
  obtain ⟨reader, queue, processor⟩ := p
  cases move with
  | release => exact absurd rfl other
  | push =>
      obtain ⟨a, -, ⟨-, rfl⟩ | rfl⟩ := push_cases stepped
      · exact Nat.zero_lt_two
      · exact Nat.one_lt_two
  | take | look | quit | detach | cancel | join =>
      simp only [step?, take?, look?, quit?, detach?, cancel?, join?] at stepped
      split at stepped
      all_goals cases stepped
      all_goals simp_all [Reader.stage]
  | receive | finish | drain =>
      simp only [step?, receive?, finish?, drain?] at stepped
      repeat' split at stepped
      all_goals cases stepped
      all_goals exact before

end Pipeline

/-! ## Steps -/

namespace Line

variable {l next : Line} {h later : Hub ε} {m : Move} {moved : Moved ε}

/-- A line that has begun and is not over. -/
def Serves (l : Line) : Prop := l.stage ≠ .spawned ∧ l.stage ≠ .left

/-- Moves that concern nothing but the reader and the processor. -/
def Move.IsInner : Move → Prop
  | .read | .timeOut | .notice | .look | .push | .detach | .cancel | .join | .receive | .drain => True
  | .start | .release | .finish | .stop | .write _ | .leave => False

/-- What a move may change of a line and its hub. -/
inductive Step (l : Line) (h : Hub ε) : Move → Line → Hub ε → Prop
  | start (spawned : l.stage = .spawned) :
      Step l h .start
        { l with
          stage := .serving
          session := (h.connect h.settings.network.writeBufferSize l.peer).2.1.id }
        (h.connect h.settings.network.writeBufferSize l.peer).1
  | inner {m : Move} (serves : l.Serves) (isInner : m.IsInner) (latch : Shutdown) (inlet : Inlet)
      (looked : latch = l.latch ∨ latch = l.latch.recv.1) (move : Pipeline.Move Packet)
      (other : move ≠ .release) (pipeline : Pipeline Packet)
      (stepped : l.pipeline.step? move = some pipeline) :
      Step l h m { l with latch, inlet, pipeline } h
  | release (serves : l.Serves) (pipeline : Pipeline Packet)
      (stepped : l.pipeline.step? .release = some pipeline) :
      Step l h .release { l with pipeline } (h.release l.session).1
  | finish (serves : l.Serves) (p : Packet) (current : l.pipeline.current? = some p)
      (pipeline : Pipeline Packet) (stepped : l.pipeline.step? .finish = some pipeline) :
      Step l h .finish { l with pipeline } (h.process l.session p).1
  | stop (serving : l.stage = .serving) (joined : l.pipeline.reader = .joined) :
      Step l h .stop { l with stage := .stopping } h
  | write (serves : l.Serves) (move : Writer.Move) (c : Connection)
      (found : h.table.find? l.session = some c) (writer : Writer) (outbound : Queue Bytes)
      (stepped : l.writer.step? ⟨c.session.outbound, true, l.stage = .stopping⟩ move =
        some (writer, outbound)) :
      Step l h (.write move) { l with writer }
        (h.putSession (.connected l.session) { c.session with outbound })
  | leave (stopping : l.stage = .stopping) (exited : l.writer.isExited = true) :
      Step l h .leave { l with stage := .left } h

theorem Step.begun (step : l.Step h m next later) : next.stage ≠ .spawned := by
  cases step with
  | start | stop | leave => nofun
  | inner serves | release serves | finish serves | write serves => exact serves.1

theorem step_of_onPipeline (move : Pipeline.Move Packet) (serves : l.Serves) (isInner : m.IsInner)
    (other : move ≠ .release) {inlet : Inlet}
    (stepped : Line.onPipeline { l with inlet } h (l.pipeline.step? move) = some moved) :
    l.Step h m moved.line moved.hub := by
  obtain ⟨pipeline, went, rfl⟩ := Option.map_eq_some_iff.mp stepped
  exact .inner serves isInner l.latch inlet (.inl rfl) move other pipeline went

theorem step_of_quit? (serves : l.Serves) (isInner : m.IsInner) {latch : Shutdown}
    (looked : latch = l.latch ∨ latch = l.latch.recv.1) {inlet : Inlet} {ending : Ending}
    (stepped : Line.quit? { l with latch, inlet } h ending = some moved) :
    l.Step h m moved.line moved.hub := by
  obtain ⟨pipeline, went, rfl⟩ := Option.map_eq_some_iff.mp stepped
  exact .inner serves isInner latch inlet looked .quit (by simp) pipeline went

theorem step_of_serve? (serves : l.Serves) (served : l.serve? h m = some moved) :
    l.Step h m moved.line moved.hub := by
  cases m with
  | start => cases served
  | read =>
      simp only [serve?, read?] at served
      split at served
      · cases served
      · next p inlet _ => exact step_of_onPipeline (.take p) serves trivial (by simp) served
      · exact step_of_quit? serves trivial (.inl rfl) served
      · exact step_of_quit? serves trivial (.inl rfl) served
  | timeOut =>
      simp only [serve?, timeOut?] at served
      split at served
      · exact step_of_quit? serves trivial (.inl rfl) served
      · cases served
  | notice =>
      simp only [serve?, notice?] at served
      split at served
      · cases served
      · next latch looked =>
          exact step_of_quit? serves trivial (.inr (congrArg Prod.fst looked).symm) served
  | look => exact step_of_onPipeline .look serves trivial (by simp) served
  | push => exact step_of_onPipeline .push serves trivial (by simp) served
  | detach => exact step_of_onPipeline .detach serves trivial (by simp) served
  | cancel => exact step_of_onPipeline .cancel serves trivial (by simp) served
  | join => exact step_of_onPipeline .join serves trivial (by simp) served
  | receive => exact step_of_onPipeline .receive serves trivial (by simp) served
  | drain => exact step_of_onPipeline .drain serves trivial (by simp) served
  | release =>
      obtain ⟨pipeline, went, rfl⟩ := Option.map_eq_some_iff.mp served
      exact .release serves pipeline went
  | finish =>
      simp only [serve?, finish?, bind, Option.bind_eq_some_iff] at served
      obtain ⟨p, current, pipeline, went, same⟩ := served
      cases same
      exact .finish serves p current pipeline went
  | stop =>
      simp only [serve?, stop?] at served
      split at served
      · next serving joined =>
          cases served
          exact .stop serving joined
      · cases served
  | write move =>
      simp only [serve?, write?, bind, Option.bind_eq_some_iff] at served
      obtain ⟨c, found, ⟨writer, outbound⟩, went, same⟩ := served
      cases same
      exact .write serves move c found writer outbound went
  | leave =>
      simp only [serve?, leave?] at served
      split at served
      · next finished =>
          cases served
          simp only [Bool.and_eq_true, decide_eq_true_eq] at finished
          exact .leave finished.1 finished.2
      · cases served

theorem step_of_step? (stepped : l.step? h m = some moved) : l.Step h m moved.line moved.hub := by
  unfold step? at stepped
  split at stepped
  · unfold start? at stepped
    split at stepped
    · next spawned =>
        cases stepped
        exact .start spawned
    · cases stepped
  · cases stepped
  · cases stepped
  · next spawned left => exact step_of_serve? ⟨spawned, left⟩ stepped

/-! ## What holds after any moves -/

/-- How far the parts of a line are at its stages. -/
structure Sound (l : Line) : Prop where
  spawned : l.stage = .spawned → l.pipeline.reader = .reading
  joined : l.stage = .stopping ∨ l.stage = .left → l.pipeline.reader = .joined
  exited : l.pipeline.reader = .joined → l.pipeline.processor = .exited
  left : l.stage = .left → l.writer.isExited = true

theorem sound_accept (settings : Settings) (peer : Address) (script : List Arrival) :
    (accept settings peer script).Sound where
  spawned _ := rfl
  joined h := by rcases h with h | h <;> cases h
  exited h := by cases h
  left h := by cases h

theorem Sound.arrive (sound : l.Sound) (a : Arrival) : (l.arrive a).Sound :=
  ⟨sound.spawned, sound.joined, sound.exited, sound.left⟩

theorem Sound.signal (sound : l.Sound) : (Node.signal l).Sound :=
  ⟨sound.spawned, sound.joined, sound.exited, sound.left⟩

/-- A line whose processor was seen to end has done with its pipeline. -/
theorem Sound.not_step? (sound : l.Sound) (ended : l.stage = .stopping ∨ l.stage = .left)
    (move : Pipeline.Move Packet) : l.pipeline.step? move = none := by
  have joined := sound.joined ended
  exact Pipeline.not_step?_of_joined joined (sound.exited joined)

theorem Sound.onPipeline (sound : l.Sound) (serves : l.Serves) {move : Pipeline.Move Packet}
    {pipeline : Pipeline Packet} (stepped : l.pipeline.step? move = some pipeline) (latch : Shutdown)
    (inlet : Inlet) : Line.Sound { l with latch, inlet, pipeline } where
  spawned h := absurd h serves.1
  joined h := by
    rw [sound.not_step? h move] at stepped
    cases stepped
  exited h := Pipeline.exited_of_joined stepped sound.exited h
  left h := absurd h serves.2

theorem Sound.step (sound : l.Sound) (step : l.Step h m next later) : next.Sound := by
  cases step with
  | start spawned =>
      have reading := sound.spawned spawned
      refine ⟨nofun, by simp, ?_, nofun⟩
      intro joined
      rw [reading] at joined
      cases joined
  | inner serves _ latch inlet _ _ _ pipeline stepped => exact sound.onPipeline serves stepped latch inlet
  | release serves pipeline stepped => exact sound.onPipeline serves stepped l.latch l.inlet
  | finish serves _ _ pipeline stepped => exact sound.onPipeline serves stepped l.latch l.inlet
  | stop _ joined => exact ⟨nofun, fun _ => joined, sound.exited, nofun⟩
  | write serves => exact ⟨sound.spawned, sound.joined, sound.exited, fun h => absurd h serves.2⟩
  | leave stopping exited =>
      exact ⟨nofun, fun _ => sound.joined (.inl stopping), sound.exited, fun _ => exited⟩

end Line

end Connector
