import Connector.Proofs.Histories
import Connector.Proofs.Processing

/-! The sessions of a hub from event to event.

* `SessionTable.Numbered`: connections are numbered from one, in their order;
* `Hub.numbered_after`: no event disturbs that;
* `Hub.session?_onSession`, `Hub.session?_connect`, `Hub.session?_release`: which session is found
  afterwards. -/

namespace Connector

namespace SessionTable

def ids (t : SessionTable) : List Nat := t.connections.map (·.id)

/-- As in every table that began without connections. -/
def Numbered (t : SessionTable) : Prop := t.ids = List.range' 1 t.connections.length

instance (t : SessionTable) : Decidable t.Numbered := inferInstanceAs (Decidable (_ = _))

theorem numbered_empty : empty.Numbered := rfl

theorem ids_put (t : SessionTable) (c : Connection) : (t.put c).ids = t.ids := by
  simp only [ids, put, List.map_map]
  refine List.map_congr_left fun other _ => ?_
  by_cases same : other.id = c.id
  · simp [same]
  · simp [same]

theorem Numbered.put {t : SessionTable} (h : t.Numbered) (c : Connection) : (t.put c).Numbered := by
  rw [Numbered, ids_put, h, SessionTable.put, List.length_map]

theorem Numbered.create {t : SessionTable} (h : t.Numbered) (capacity : Nat) (peer : Address)
    (now : Nat) : (t.create capacity peer now).1.Numbered := by
  have last : (Connection.new t.nextId capacity peer now).id = 1 + t.connections.length := by
    rw [Nat.add_comm]
    rfl
  have ids : t.connections.map (·.id) = List.range' 1 t.connections.length := h
  simp only [Numbered, SessionTable.ids, SessionTable.create, List.map_append, ids, List.map_cons,
    List.map_nil, last, List.length_append, List.length_cons, List.length_nil, List.range'_concat,
    Nat.zero_add, Nat.one_mul]

theorem Numbered.release {t : SessionTable} (h : t.Numbered) (id : Nat) : (t.release id).1.Numbered := by
  unfold SessionTable.release
  split
  · exact h
  · exact h.put _

theorem Numbered.nodup {t : SessionTable} (h : t.Numbered) : t.ids.Nodup := by
  rw [h]
  exact List.nodup_range'

theorem Numbered.find?_created {t : SessionTable} (h : t.Numbered) (capacity : Nat) (peer : Address)
    (now : Nat) :
    (t.create capacity peer now).1.find? (t.create capacity peer now).2.id =
      some (t.create capacity peer now).2 := by
  have last : (t.create capacity peer now).2 ∈ (t.create capacity peer now).1.connections := by
    simp [SessionTable.create]
  exact find?_of_nodup_key (h.create capacity peer now).nodup last

/-- A connection that the table still holds is the only one with its id. -/
theorem Numbered.find?_of_get? {t : SessionTable} (h : t.Numbered) {id : Nat} {c : Connection}
    (held : t.get? id = some c) : t.find? id = some c := by
  have mem : c ∈ t.connections := (List.mem_filter.mp (List.mem_of_find?_eq_some held)).1
  have same : c.id = id := by simpa using List.find?_some held
  rw [← same]
  exact find?_of_nodup_key h.nodup mem

end SessionTable

namespace Hub

variable {ε : Type}

theorem release_eq (h : Hub ε) (id : Nat) :
    (h.release id).1 = { h with table := (h.table.release id).1 } := by
  unfold release SessionTable.release
  cases h.table.get? id with
  | none => rfl
  | some c => rfl

theorem numbered_putSession {h : Hub ε} (numbered : h.table.Numbered) (origin : Origin) (s : Session) :
    (h.putSession origin s).table.Numbered := by
  unfold putSession
  split
  · split
    · exact numbered
    · exact numbered.put _
  · exact numbered

theorem numbered_onSession {α : Type} {h : Hub ε} (numbered : h.table.Numbered) (origin : Origin)
    (f : Session → Session × α) : (h.onSession origin f).1.table.Numbered := by
  unfold onSession
  split
  · exact numbered
  · exact numbered_putSession numbered ..

theorem table_withRegistry (h : Hub ε) (r : Registry (Method ε)) :
    (h.withRegistry r).table = h.table := rfl

theorem numbered_after {h : Hub ε} (numbered : h.table.Numbered) (e : Event ε) :
    (h.after e).table.Numbered := by
  cases e with
  | connect capacity peer => exact numbered.create ..
  | release id =>
      rw [after, release_eq]
      exact numbered.release id
  | packet id p =>
      rw [after]
      cases found : h.table.find? id with
      | none => rwa [process_of_unknown found]
      | some c =>
          rw [process_of_found found]
          exact numbered.put _
  | receive origin n => exact numbered_onSession numbered ..
  | hangUp origin => exact numbered_onSession numbered ..
  | register typeName candidates =>
      rw [after, table_withRegistry]
      exact numbered
  | takeForwards | closeForwards | wait => exact numbered

theorem numbered_afterAll {h : Hub ε} (numbered : h.table.Numbered) (es : List (Event ε)) :
    (h.afterAll es).table.Numbered := by
  induction es generalizing h with
  | nil => exact numbered
  | cons e es ih => exact ih (numbered_after numbered e)

/-! ## The session of an origin -/

theorem session?_putSession {h : Hub ε} {origin : Origin} {s : Session}
    (found : h.session? origin = some s) {later : Session} (same : later.id = s.id) (other : Origin) :
    (h.putSession origin later).session? other =
      if other = origin then some later else h.session? other := by
  cases origin with
  | detached index =>
      cases other with
      | connected id => rfl
      | detached i =>
          have inside : index < h.detached.length := (List.getElem?_eq_some_iff.mp found).1
          simp only [putSession, session?, List.getElem?_set, Origin.detached.injEq]
          by_cases same : i = index
          · subst same
            simp [inside]
          · simp [same, Ne.symm same]
  | connected id =>
      cases known : h.table.find? id with
      | none => simp [session?, known] at found
      | some c =>
          have session : c.session = s := by simpa [session?, known] using found
          have ids : ({ c with session := later } : Connection).id = id := by
            have own : c.session.id = id := SessionTable.id_of_find? known
            rw [session] at own
            exact same.trans own
          cases other with
          | detached i => simp [putSession, known, session?]
          | connected i =>
              simp only [putSession, known, session?, SessionTable.find?_put, ids, Origin.connected.injEq]
              by_cases same : i = id
              · subst same
                simp [known]
              · simp [same]

theorem session?_onSession {α : Type} {h : Hub ε} {f : Session → Session × α}
    (same : ∀ s, (f s).1.id = s.id) (origin other : Origin) :
    (h.onSession origin f).1.session? other =
      if other = origin then (h.session? origin).map (f · |>.1) else h.session? other := by
  unfold onSession
  cases found : h.session? origin with
  | none =>
      by_cases same : other = origin
      · rw [if_pos same, same]
        exact found
      · rw [if_neg same]
  | some s => exact session?_putSession found (same s) other

theorem session?_connect (h : Hub ε) (capacity : Nat) (peer : Address) (origin : Origin) :
    (h.connect capacity peer).1.session? origin = h.session? origin ∨
      h.session? origin = none ∧ ∃ id, (h.connect capacity peer).1.session? origin =
        some (.new id capacity) := by
  cases origin with
  | detached index => exact .inl rfl
  | connected id =>
      simp only [session?, connect, SessionTable.create, SessionTable.find?, List.find?_append]
      cases h.table.connections.find? (·.id == id) with
      | some c => exact .inl rfl
      | none =>
          by_cases next : h.table.nextId = id
          · refine .inr ⟨rfl, h.table.nextId, ?_⟩
            have same : (Connection.new h.table.nextId capacity peer h.now).id = id := next
            simp [same]
            rfl
          · left
            have other : (Connection.new h.table.nextId capacity peer h.now).id ≠ id := next
            simp [other]

theorem session?_release {h : Hub ε} (numbered : h.table.Numbered) (id : Nat) (origin : Origin) :
    (h.release id).1.session? origin = h.session? origin := by
  rw [release_eq, SessionTable.release]
  cases held : h.table.get? id with
  | none => rfl
  | some c =>
      cases origin with
      | detached index => rfl
      | connected other =>
          have found := numbered.find?_of_get? held
          have own : c.id = id := SessionTable.id_of_find? found
          have closed : c.close.1.session = c.session := c.session_moveTo .closed
          have ids : ({ c.close.1 with released := true } : Connection).id = id :=
            (congrArg Session.id closed).trans own
          simp only [session?, SessionTable.find?_put, ids]
          by_cases same : other = id
          · subst same
            simp [found, closed]
          · simp [same]

end Hub

end Connector
