import Connector.Proofs.Lines

/-! What one move makes of a node.

* `Node.Step`, `Node.step_of_step?`: the changes that moves make;
* `Node.keeps_of_run?`: what every step keeps holds after any moves. -/

namespace Connector

variable {ε : Type}

namespace Node

variable {limit : Nat} {n next : Node ε} {m : Move} {moves : List Move} {t : Trace ε}

/-- Whether the shutdown signal was sent. -/
def Phase.isSignalled : Phase → Bool
  | serving | closing => false
  | signalled | waiting | stopped => true

/-- Moves of the world around a node. -/
def Move.IsOuter : Move → Prop
  | .connect _ | .arrive _ _ | .wait _ => True
  | _ => False

/-- What a move may change of a node. -/
inductive Step (n : Node ε) : Move → Node ε → Prop
  | outer {m : Move} (isOuter : m.IsOuter) (backlog : List Caller) (now : Nat) :
      Step n m { n with backlog, hub := { n.hub with now } }
  | arrive (index : Nat) (a : Arrival) (l : Line) (found : n.lines[index]? = some l) :
      Step n (.arrive index a) { n with lines := n.lines.set index (l.arrive a) }
  | permit (idle : n.acceptor = .idle) (free : Nat) (taken : n.admission.free = free + 1) :
      Step n .permit { n with admission := { n.admission with free }, acceptor := .admitted 1 }
  | refuse (idle : n.acceptor = .idle) (cause : AcceptError) :
      Step n .permit { n with acceptor := .failed cause, phase := .closing }
  | accept (admitted : n.acceptor.isAdmitted = true) (peer : Address) (script : List Arrival)
      (backlog : List Caller) :
      Step n .accept
        { n with
          acceptor := .idle, backlog
          lines := n.lines ++ [Line.accept n.hub.settings peer script]
          completion := n.completion.join n.lines.length }
  | retry (text : String) (admitted : n.acceptor.isAdmitted = true) (backoff : Nat) :
      Step n (.stumble text) { n with acceptor := .admitted backoff }
  | giveUp (text : String) (admitted : n.acceptor.isAdmitted = true) (cause : AcceptError) :
      Step n (.stumble text)
        { n with admission := n.admission.giveBack, acceptor := .failed cause, phase := .closing }
  | line (index : Nat) (m : Line.Move) (l : Line) (found : n.lines[index]? = some l) (next : Line)
      (hub : Hub ε) (step : l.Step n.hub m next hub) :
      Step n (.line index m)
        { n with
          hub
          admission := if next.isLeft then n.admission.giveBack else n.admission
          lines := n.lines.set index next }
  | part (index : Nat) (l : Line) (found : n.lines[index]? = some l) (left : l.isLeft = true) :
      Step n (.part index) { n with completion := n.completion.part index }
  | shutDown (serving : n.phase = .serving) :
      Step n .shutDown
        { n with
          admission := if n.acceptor.isAdmitted then n.admission.giveBack else n.admission
          acceptor := .stopped, phase := .closing }
  | signal (closing : n.phase = .closing) :
      Step n .signal { n with lines := n.lines.map Node.signal, phase := .signalled }
  | dismiss (signalled : n.phase = .signalled) :
      Step n .dismiss { n with completion := n.completion.dismiss, phase := .waiting }
  | complete (waiting : n.phase = .waiting) (finished : n.completion.lines = []) :
      Step n .complete { n with phase := .stopped }

theorem step_of_arrive (n : Node ε) (index : Nat) (a : Arrival) :
    n.Step (.arrive index a) (n.arrive index a) := by
  unfold Node.arrive
  split
  · exact .outer (m := .arrive index a) trivial n.backlog n.hub.now
  · split
    · next inside =>
        have same : n.lines.modify index (·.arrive a) = n.lines.set index (n.lines[index].arrive a) := by
          refine List.ext_getElem? fun i => ?_
          rw [List.getElem?_modify, List.getElem?_set]
          by_cases same : index = i
          · subst same
            simp [inside]
          · simp [same]
        rw [same]
        exact .arrive index a _ (List.getElem?_eq_getElem inside)
    · exact .outer (m := .arrive index a) trivial _ n.hub.now

theorem step_of_permit? (stepped : n.permit? = some (next, t)) : n.Step .permit next := by
  unfold permit? at stepped
  split at stepped
  · next idle =>
      split at stepped
      · next admission acquired =>
          cases stepped
          unfold Admission.acquire at acquired
          repeat' split at acquired
          all_goals cases acquired
          next some => exact .permit idle _ (Nat.succ_pred_eq_of_ne_zero some).symm
      · cases stepped
      · cases stepped
        exact .refuse idle _
  · cases stepped

theorem step_of_step? (stepped : n.step? m = some (next, t)) : n.Step m next := by
  cases m with
  | connect peer =>
      cases stepped
      exact .outer (m := .connect peer) trivial _ n.hub.now
  | wait milliseconds =>
      cases stepped
      exact .outer (m := .wait milliseconds) trivial n.backlog _
  | arrive index a =>
      cases stepped
      exact step_of_arrive n index a
  | permit => exact step_of_permit? stepped
  | accept =>
      simp only [step?, accept?] at stepped
      split at stepped
      · next admitted _ =>
          cases stepped
          exact .accept (by rw [admitted]; rfl) _ _ _
      · cases stepped
  | stumble text =>
      simp only [step?, stumble?] at stepped
      split at stepped
      · next admitted =>
          split at stepped
          · cases stepped
            exact .giveUp text (by rw [admitted]; rfl) _
          · cases stepped
            exact .retry text (by rw [admitted]; rfl) _
      · cases stepped
  | line index m =>
      simp only [step?, line?, bind, Option.bind_eq_some_iff] at stepped
      obtain ⟨l, found, moved, went, same⟩ := stepped
      cases same
      exact .line index m l found _ _ (Line.step_of_step? went)
  | part index =>
      obtain ⟨parted, went, same⟩ := Option.map_eq_some_iff.mp stepped
      cases same
      unfold part? at went
      split at went
      · next l found =>
          split at went
          · next left =>
              cases went
              exact .part index l found (Bool.and_eq_true_iff.mp left).1
          · cases went
      · cases went
  | shutDown =>
      obtain ⟨closed, went, same⟩ := Option.map_eq_some_iff.mp stepped
      cases same
      unfold shutDown? at went
      split at went
      · next serving =>
          cases went
          exact .shutDown serving
      · cases went
  | signal =>
      obtain ⟨sent, went, same⟩ := Option.map_eq_some_iff.mp stepped
      cases same
      unfold signal? at went
      split at went
      · next closing =>
          cases went
          exact .signal closing
      · cases went
  | dismiss =>
      simp only [step?, dismiss?] at stepped
      split at stepped
      · next signalled =>
          cases stepped
          exact .dismiss signalled
      · cases stepped
  | complete =>
      simp only [step?, complete?] at stepped
      split at stepped
      · next waiting =>
          split at stepped
          · next finished =>
              cases stepped
              refine .complete waiting ?_
              simpa using (Bool.and_eq_true_iff.mp finished).2
          · cases stepped
      · cases stepped

/-- What every step keeps, with the moves so far, holds after any moves. -/
theorem keeps_of_run? {P : List Move → Node ε → Prop}
    (kept : ∀ before n m next, P before n → n.Step m next → P (before ++ [m]) next)
    {before : List Move} {last : Node ε} (start : P before n) (ran : n.run? moves = some (last, t)) :
    P (before ++ moves) last := by
  induction moves generalizing n before t with
  | nil =>
      cases ran
      rwa [List.append_nil]
  | cons m moves ih =>
      simp only [run?, bind, Option.bind_eq_some_iff] at ran
      obtain ⟨⟨next, first⟩, stepped, ⟨final, later⟩, ran, same⟩ := ran
      cases same
      have stays := ih (kept before n m next start (step_of_step? stepped)) ran
      rwa [List.append_assoc] at stays

end Node

end Connector
