import Connector.Hub
import Connector.Proofs.Registration

/-! What happens at a hub, one thing after another.

* `exists_split_concat`: something is found in a history that is one longer;
* `Hub.Event`, `Hub.afterAll`: a hub whose application works through its handlers alone;
* `Hub.Act`, `Hub.actAll`: a hub whose application does with it whatever it may;
* `Hub.act_grows`, `Hub.actAll_grows`: whatever happens, no route loses its code. -/

namespace Connector

variable {ε : Type}

/-- A place in a list that is one longer is the last, or a place in the list. -/
theorem exists_split_concat {α : Type} {P : List α → α → List α → Prop} (xs : List α) (x : α) :
    (∃ before y later, xs ++ [x] = before ++ y :: later ∧ P before y later) ↔
      P xs x [] ∨ ∃ before y later, xs = before ++ y :: later ∧ P before y (later ++ [x]) := by
  constructor
  · rintro ⟨before, y, later, split, holds⟩
    rcases List.eq_nil_or_concat later with rfl | ⟨later, z, rfl⟩
    · obtain ⟨rfl, same⟩ := List.append_inj' split rfl
      cases same
      exact .inl holds
    · rw [List.concat_eq_append] at split holds
      rw [← List.cons_append, ← List.append_assoc] at split
      obtain ⟨rfl, same⟩ := List.append_inj' split rfl
      cases same
      exact .inr ⟨before, y, later, rfl, holds⟩
  · rintro (holds | ⟨before, y, later, rfl, holds⟩)
    · exact ⟨xs, x, [], rfl, holds⟩
    · exact ⟨before, y, later ++ [x], by simp, holds⟩

namespace Hub

/-! ## Events -/

inductive Event (ε : Type) where
  | register (typeName : String) (candidates : List (Candidate (Method ε)))
  | connect (capacity : Nat) (peer : Address)
  | release (id : Nat)
  /-- A packet of a connection is processed. -/
  | packet (id : Nat) (p : Packet)
  /-- A client gets so many of the buffers that are queued for it. -/
  | receive (origin : Origin) (n : Nat)
  | hangUp (origin : Origin)
  | takeForwards (n : Nat)
  | closeForwards
  | wait (milliseconds : Nat)

def after (h : Hub ε) : Event ε → Hub ε
  | .register typeName candidates => h.withRegistry (h.registry.register typeName candidates).registry
  | .connect capacity peer => (h.connect capacity peer).1
  | .release id => (h.release id).1
  | .packet id p => (h.process id p).1
  | .receive origin n => (h.onSession origin fun s => ((s.receive n).2, ())).1
  | .hangUp origin => (h.onSession origin fun s => (s.hangUp, ())).1
  | .takeForwards n => (h.takeForwards n).2
  | .closeForwards => h.closeForwards.1
  | .wait milliseconds => { h with now := h.now + milliseconds }

def afterAll (h : Hub ε) (es : List (Event ε)) : Hub ε := es.foldl after h

/-! ## Acts -/

/-- Beside its handlers an application may do anything with the sessions and connections that it holds. -/
inductive Act (ε : Type) where
  | event (e : Event ε)
  /-- The second step of a registration. Others may have come in since the first. -/
  | commit (name typeName : String) (table : List (String × Method ε))
  | detach (s : Session)
  | onSession (origin : Origin) (f : Session → Session)
  | onConnection (id : Nat) (f : Connection → Connection)
  | route (origin : Origin) (m : Message)
  | dispatch (origin : Origin) (route : Route) (body : Bytes)
  | forward (kind : ForwardKind) (origin : Origin) (route : Route) (body : Bytes)

def act (h : Hub ε) : Act ε → Hub ε
  | .event e => h.after e
  | .commit name typeName table =>
      match h.registry.commit name typeName table with
      | .ok (registry, _) => h.withRegistry registry
      | .error _ => h
  | .detach s => (h.detach s).1
  | .onSession origin f => (h.onSession origin fun s => (f s, ())).1
  | .onConnection id f => (h.onConnection id fun c => (f c, ())).1
  | .route origin m => (h.route origin m).1
  | .dispatch origin route body => (h.dispatch origin route body).1
  | .forward kind origin route body => (h.forward kind origin route body).1

def actAll (h : Hub ε) (acts : List (Act ε)) : Hub ε := acts.foldl act h

end Hub

/-! ## The dictionary -/

namespace Switchboard

theorem dispatch_dictionary (b : Switchboard ε) (s : Session) (route : Route) (body : Bytes) :
    (b.dispatch s route body).1.board.registry.dictionary = b.registry.dictionary := by
  unfold dispatch
  split
  · rfl
  · rfl

theorem forward_registry (b : Switchboard ε) (kind : ForwardKind) (origin : Origin) (s : Session)
    (route : Route) (body : Bytes) : (b.forward kind origin s route body).1.registry = b.registry := by
  unfold forward
  split
  · rfl
  · rfl
  · rfl

theorem send_dictionary (b : Switchboard ε) (origin : Origin) (s : Session) (route : Route)
    (body : Bytes) : (b.send origin s route body).board.registry.dictionary = b.registry.dictionary := by
  unfold send
  split
  · exact dispatch_dictionary b s route body
  · exact congrArg Registry.dictionary (forward_registry b .system origin s route body)

theorem route_dictionary (b : Switchboard ε) (origin : Origin) (s : Session) (m : Message) :
    (b.route origin s m).board.registry.dictionary = b.registry.dictionary := by
  unfold route
  split
  · rfl
  · split
    · rfl
    · exact send_dictionary ..

end Switchboard

theorem Connection.processKind_dictionary (board : Switchboard ε) (interval now : Nat) (c : Connection)
    (p : Packet) :
    (c.processKind board interval now p).board.registry.dictionary = board.registry.dictionary := by
  unfold processKind
  split
  · unfold processHandshake
    split
    · rfl
    · dsimp only
      split
      · rfl
      · rfl
  · unfold processAck
    split
    · rfl
    · rfl
  · rfl
  · unfold processData
    split
    · rfl
    · exact Switchboard.route_dictionary ..

namespace Hub

theorem registry_withRegistry (h : Hub ε) (r : Registry (Method ε)) :
    (h.withRegistry r).registry = r := rfl

theorem putSession_board (h : Hub ε) (origin : Origin) (s : Session) :
    (h.putSession origin s).board = h.board := by
  unfold putSession
  split
  · split
    · rfl
    · rfl
  · rfl

theorem onSession_board {α : Type} (h : Hub ε) (origin : Origin) (f : Session → Session × α) :
    (h.onSession origin f).1.board = h.board := by
  unfold onSession
  split
  · rfl
  · exact putSession_board ..

theorem onConnection_board {α : Type} (h : Hub ε) (id : Nat) (f : Connection → Connection × α) :
    (h.onConnection id f).1.board = h.board := by
  unfold onConnection
  split
  · rfl
  · rfl

theorem release_board (h : Hub ε) (id : Nat) : (h.release id).1.board = h.board := by
  unfold release
  split
  · rfl
  · rfl

theorem process_dictionary (h : Hub ε) (id : Nat) (p : Packet) :
    (h.process id p).1.registry.dictionary = h.registry.dictionary := by
  unfold process
  split
  · rfl
  · exact Connection.processKind_dictionary ..

theorem routed_dictionary {h : Hub ε} {origin : Origin} {r : Routed ε}
    (same : r.board.registry.dictionary = h.registry.dictionary) :
    (h.routed origin r).registry.dictionary = h.registry.dictionary := by
  rw [registry, routed, putSession_board]
  exact same

theorem after_grows (h : Hub ε) (e : Event ε) :
    h.registry.dictionary.Grows (h.after e).registry.dictionary := by
  cases e with
  | register typeName candidates =>
      rw [after, registry_withRegistry]
      exact Registry.register_grows h.registry typeName candidates
  | packet id p => exact .of_eq (process_dictionary h id p)
  | release id => exact .of_eq (congrArg (·.registry.dictionary) (release_board h id))
  | receive origin n => exact .of_eq (congrArg (·.registry.dictionary) (onSession_board h origin _))
  | hangUp origin => exact .of_eq (congrArg (·.registry.dictionary) (onSession_board h origin _))
  | connect | takeForwards | closeForwards | wait => exact .of_eq rfl

theorem act_grows (h : Hub ε) (a : Act ε) :
    h.registry.dictionary.Grows (h.act a).registry.dictionary := by
  cases a with
  | event e => exact after_grows h e
  | commit name typeName table =>
      simp only [act]
      split
      · next committed => exact Registry.commit_grows committed
      · exact .refl _
  | detach s => exact .refl _
  | onSession origin f => exact .of_eq (congrArg (·.registry.dictionary) (onSession_board h origin _))
  | onConnection id f => exact .of_eq (congrArg (·.registry.dictionary) (onConnection_board h id _))
  | route origin m =>
      refine .of_eq ?_
      simp only [act, route]
      split
      · rfl
      · exact routed_dictionary (Switchboard.route_dictionary ..)
  | dispatch origin route body =>
      refine .of_eq ?_
      simp only [act, dispatch]
      split
      · rfl
      · exact routed_dictionary (Switchboard.dispatch_dictionary ..)
  | forward kind origin route body =>
      refine .of_eq ?_
      simp only [act, forward]
      split
      · rfl
      · exact congrArg Registry.dictionary (Switchboard.forward_registry ..)

theorem actAll_grows (h : Hub ε) (acts : List (Act ε)) :
    h.registry.dictionary.Grows (h.actAll acts).registry.dictionary := by
  induction acts generalizing h with
  | nil => exact .refl _
  | cons a acts ih => exact (act_grows h a).trans (ih (h.act a))

end Hub

end Connector
