import Connector.Proofs.Sessions

/-! The connections that a table of sessions holds.

* `SessionTable.Lives`, `SessionTable.count_eq_zero_iff`: whether it holds one with an id;
* `SessionTable.lives_create`, `SessionTable.lives_release`: only a new connection comes in, and a released
  one is gone;
* `Hub.lives_process`, `Hub.lives_putSession`: nothing else brings anybody in. -/

namespace Connector

variable {ε : Type}

namespace SessionTable

/-- The table holds a connection with an id. -/
def Lives (t : SessionTable) (id : Nat) : Prop :=
  ∃ c ∈ t.connections, c.id = id ∧ c.released = false

theorem count_eq_zero_iff (t : SessionTable) : t.count = 0 ↔ ∀ id, ¬ t.Lives id := by
  simp only [count, live, List.length_eq_zero_iff, List.filter_eq_nil_iff, Lives]
  constructor
  · rintro none id ⟨c, mem, -, held⟩
    exact none c mem (by simp [held])
  · intro none c mem held
    exact none c.id ⟨c, mem, rfl, by simpa using held⟩

theorem mem_put {t : SessionTable} {c other : Connection} (mem : other ∈ (t.put c).connections) :
    other = c ∨ other.id ≠ c.id ∧ other ∈ t.connections := by
  obtain ⟨old, known, rfl⟩ := List.mem_map.mp mem
  by_cases same : old.id = c.id
  · exact .inl (if_pos same)
  · rw [if_neg same]
    exact .inr ⟨same, known⟩

/-- A connection that is put in the place of another makes nobody live that was not. -/
theorem lives_of_put {t : SessionTable} {known c : Connection} (mem : known ∈ t.connections)
    (ids : c.id = known.id) (released : c.released = known.released) {id : Nat}
    (lives : (t.put c).Lives id) : t.Lives id := by
  obtain ⟨other, mem', own, held⟩ := lives
  rcases mem_put mem' with rfl | ⟨-, old⟩
  · exact ⟨known, mem, ids.symm.trans own, released.symm.trans held⟩
  · exact ⟨other, old, own, held⟩

theorem lives_create {t : SessionTable} {capacity : Nat} {peer : Address} {now id : Nat}
    (lives : (t.create capacity peer now).1.Lives id) :
    id = (t.create capacity peer now).2.id ∨ t.Lives id := by
  obtain ⟨c, mem, own, held⟩ := lives
  rcases List.mem_append.mp mem with mem | mem
  · exact .inr ⟨c, mem, own, held⟩
  · obtain rfl := List.mem_singleton.mp mem
    exact .inl own.symm

theorem lives_release {t : SessionTable} {id other : Nat} (lives : (t.release id).1.Lives other) :
    other ≠ id ∧ t.Lives other := by
  unfold release at lives
  split at lives
  · next none =>
      refine ⟨?_, lives⟩
      rintro rfl
      obtain ⟨c, mem, own, held⟩ := lives
      have nobody := List.find?_eq_none.mp none c (List.mem_filter.mpr ⟨mem, by simp [held]⟩)
      simp [own] at nobody
  · next c found =>
      have own : ({ c.close.1 with released := true } : Connection).id = id := by
        have known : c.id = id := by simpa using List.find?_some found
        exact (congrArg Session.id (c.session_moveTo .closed)).trans known
      obtain ⟨last, mem, ids, held⟩ := lives
      rcases mem_put mem with rfl | ⟨apart, old⟩
      · cases held
      · rw [own] at apart
        exact ⟨fun same => apart (ids.trans same), last, old, ids, held⟩

end SessionTable

namespace Connection

theorem released_moveTo (c : Connection) (next : Status) :
    (c.moveTo next).1.released = c.released := by
  unfold moveTo
  split
  · rfl
  · rfl

theorem released_processHandshake (board : Switchboard ε) (interval : Nat) (c : Connection) :
    (c.processHandshake board interval).connection.released = c.released := by
  have kept : c.handshake.1.released = c.released := c.released_moveTo .handshaking
  unfold processHandshake
  split
  · next shaken =>
      rw [shaken] at kept
      exact kept
  · next shaken =>
      rw [shaken] at kept
      dsimp only
      split
      · exact kept
      · exact kept

theorem released_processKind (board : Switchboard ε) (interval now : Nat) (c : Connection) (p : Packet) :
    (c.processKind board interval now p).connection.released = c.released := by
  unfold processKind
  split
  · exact released_processHandshake board interval c
  · have kept : c.acknowledge.1.released = c.released := c.released_moveTo .working
    unfold processAck
    split
    all_goals next acknowledged => rwa [acknowledged] at kept
  · rfl
  · unfold processData
    split
    · rfl
    · rfl

end Connection

namespace Hub

theorem lives_process {h : Hub ε} {id other : Nat} {p : Packet}
    (lives : (h.process id p).1.table.Lives other) : h.table.Lives other := by
  cases found : h.table.find? id with
  | none => rwa [process_of_unknown found] at lives
  | some c =>
      rw [process_of_found found] at lives
      exact SessionTable.lives_of_put (List.mem_of_find?_eq_some found)
        (c.id_processKind h.board h.settings.heartbeat.interval h.now p)
        (c.released_processKind h.board h.settings.heartbeat.interval h.now p) lives

theorem lives_putSession {h : Hub ε} {id other : Nat} {c : Connection}
    (found : h.table.find? id = some c) {s : Session} (same : s.id = c.session.id)
    (lives : (h.putSession (.connected id) s).table.Lives other) : h.table.Lives other := by
  simp only [putSession, found] at lives
  have ids : ({ c with session := s } : Connection).id = c.id := same
  exact SessionTable.lives_of_put (List.mem_of_find?_eq_some found) ids rfl lives

end Hub

end Connector
