import Mathlib.Data.List.Nodup
import Connector.Proofs.Living
import Connector.Proofs.Statuses

/-! The table of sessions by its history.

* `SessionTable.Touched`: what most turns make of a table: one of its connections goes on, or none;
* `Hub.Tended`, `Hub.tended_turn`: what one turn makes of it;
* `Hub.Made`, `Hub.WasReleased`, `Hub.freed`: which connections were made and which were released;
* `Hub.Exact`, `Hub.exact_turnAll`: so the table holds what was made and not released;
* `Roster`, `Roster.Agrees`: a table under keys of 64 bits holds the same, as long as there are enough keys;
* `Hub.table_of_history`: all that a table of sessions tells, from what happened before. -/

namespace Connector

variable {ε : Type}

/-! ## One connection in the place of another -/

namespace Connection

/-- What a release makes of a connection. -/
def gone (c : Connection) : Connection := { c.close.1 with released := true }

theorem id_gone (c : Connection) : c.gone.id = c.id := c.id_moveTo .closed

theorem status_gone (c : Connection) : c.gone.status = .closed := by
  simp [gone, close, status_moveTo]

end Connection

namespace SessionTable

theorem Numbered.exists_put {t : SessionTable} (h : t.Numbered) {c later : Connection}
    (known : t.find? later.id = some c) :
    ∃ before after, t.connections = before ++ c :: after ∧
      (t.put later).connections = before ++ later :: after := by
  obtain ⟨before, after, split⟩ := List.append_of_mem (List.mem_of_find?_eq_some known)
  have own : c.id = later.id := id_of_find? known
  have nodup := h.nodup
  rw [ids, split, List.map_append, List.map_cons, List.nodup_append, List.nodup_cons] at nodup
  obtain ⟨-, ⟨newAfter, -⟩, newBefore⟩ := nodup
  have kept {others : List Connection} (apart : ∀ other ∈ others, other.id ≠ later.id) :
      others.map (fun other => if other.id = later.id then later else other) = others := by
    conv_rhs => rw [← List.map_id others]
    exact List.map_congr_left fun other mem => if_neg (apart other mem)
  refine ⟨before, after, split, ?_⟩
  show t.connections.map (fun other => if other.id = later.id then later else other) = _
  rw [split, List.map_append, List.map_cons, if_pos own, kept, kept]
  · rintro other mem same
    exact newAfter (List.mem_map.mpr ⟨other, mem, same.trans own.symm⟩)
  · rintro other mem same
    exact newBefore other.id (List.mem_map_of_mem mem) c.id (by simp) (same.trans own.symm)

theorem Numbered.count_put {t : SessionTable} (h : t.Numbered) {c later : Connection}
    (known : t.find? later.id = some c) :
    (t.put later).count + (!c.released).toNat = t.count + (!later.released).toNat := by
  obtain ⟨before, after, split, replaced⟩ := h.exists_put known
  simp only [count, live, split, replaced, List.filter_append, List.length_append, List.filter_cons]
  cases c.released <;> cases later.released <;> simp <;> omega

theorem Numbered.get?_eq_some_iff {t : SessionTable} (h : t.Numbered) {id : Nat} {c : Connection} :
    t.get? id = some c ↔ t.find? id = some c ∧ c.released = false := by
  constructor
  · intro held
    have mem := List.mem_filter.mp (List.mem_of_find?_eq_some held)
    exact ⟨h.find?_of_get? held, by simpa using mem.2⟩
  · rintro ⟨known, held⟩
    have mem : c ∈ t.live := List.mem_filter.mpr ⟨List.mem_of_find?_eq_some known, by simp [held]⟩
    have nodup : (t.live.map (·.id)).Nodup := h.nodup.sublist (List.filter_sublist.map _)
    rw [← id_of_find? known]
    exact find?_of_nodup_key nodup mem

theorem release_of_none {t : SessionTable} {id : Nat} (absent : t.get? id = none) :
    t.release id = (t, none) := by
  simp only [release, absent]

theorem release_of_some {t : SessionTable} {id : Nat} {c : Connection} (held : t.get? id = some c) :
    t.release id = (t.put c.gone, some c.gone) := by
  simp only [release, held]
  rfl

/-- No connection of the table goes on, or one does. It is held as before, and closed if it was. -/
inductive Touched (t : SessionTable) : SessionTable → Prop
  | none : t.Touched t
  | one {c later : Connection} (known : t.find? later.id = some c)
      (held : later.released = c.released) (final : c.status = .closed → later.status = .closed) :
      t.Touched (t.put later)

end SessionTable

/-! ## One turn -/

namespace Hub

theorem touched_putSession (h : Hub ε) {origin : Origin} {s : Session}
    (own : ∀ i, origin = .connected i → s.id = i) :
    h.table.Touched (h.putSession origin s).table := by
  cases origin with
  | detached index => exact .none
  | connected i =>
      simp only [putSession]
      cases known : h.table.find? i with
      | none => exact .none
      | some c =>
          have same : ({ c with session := s } : Connection).id = i := own i rfl
          exact .one (c := c) (by rw [same, known]) rfl id

theorem touched_onSession {α : Type} (h : Hub ε) (origin : Origin) {f : Session → Session × α}
    (ids : ∀ s, (f s).1.id = s.id) : h.table.Touched (h.onSession origin f).1.table := by
  unfold onSession
  split
  · exact .none
  · next s known =>
      apply touched_putSession
      rintro i rfl
      exact (ids s).trans (id_of_session? known)

theorem touched_routed (h : Hub ε) {origin : Origin} {s : Session} (known : h.session? origin = some s)
    {r : Routed ε} (same : r.session.id = s.id) : h.table.Touched (h.routed origin r).table := by
  refine touched_putSession { h with board := r.board } ?_
  rintro i rfl
  exact same.trans (id_of_session? known)

theorem touched_moveTo (h : Hub ε) (id : Nat) (next : Status) :
    h.table.Touched (h.onConnection id (·.moveTo next)).1.table := by
  unfold onConnection
  split
  · exact .none
  · next c known =>
      have own : (c.moveTo next).1.id = id := (c.id_moveTo next).trans (SessionTable.id_of_find? known)
      refine .one (own.symm ▸ known) (c.released_moveTo next) fun closed => ?_
      rw [c.status_moveTo next, if_pos closed]

theorem touched_process (h : Hub ε) (id : Nat) (p : Packet) :
    h.table.Touched (h.process id p).1.table := by
  cases known : h.table.find? id with
  | none =>
      rw [process_of_unknown known]
      exact .none
  | some c =>
      rw [process_of_found known]
      have own := (c.id_processKind h.board h.settings.heartbeat.interval h.now p).trans
        (SessionTable.id_of_find? known)
      refine .one (own.symm ▸ known) (c.released_processKind ..) fun closed => ?_
      rw [c.status_processKind, if_pos closed]

def isConnect : Turn ε → Bool
  | .event (.connect ..) => true
  | _ => false

/-- What a turn makes of the table: a new connection, a release, or nothing that makes or releases any. -/
inductive Tended (h : Hub ε) : Turn ε → SessionTable → Prop
  | connect (capacity : Nat) (peer : Address) :
      Tended h (.event (.connect capacity peer)) (h.table.create capacity peer h.now).1
  | release (id : Nat) : Tended h (.event (.release id)) (h.table.release id).1
  | quiet {t : Turn ε} {later : SessionTable} (madeNone : isConnect t = false)
      (releasedNone : ∀ id, t ≠ .event (.release id)) (touched : h.table.Touched later) : Tended h t later

theorem tended_turn (h : Hub ε) (t : Turn ε) : h.Tended t (h.turn t).table := by
  cases t with
  | event e =>
      cases e with
      | connect capacity peer => exact .connect capacity peer
      | release id =>
          rw [turn, after, release_eq]
          exact .release id
      | packet id p => exact .quiet rfl (by simp) (h.touched_process id p)
      | receive origin n => exact .quiet rfl (by simp) (h.touched_onSession origin fun _ => rfl)
      | hangUp origin => exact .quiet rfl (by simp) (h.touched_onSession origin fun _ => rfl)
      | register typeName candidates =>
          rw [turn, after, table_withRegistry]
          exact .quiet rfl (by simp) .none
      | takeForwards | closeForwards | wait => exact .quiet rfl (by simp) .none
  | handshake id => exact .quiet rfl (by simp) (h.touched_moveTo id .handshaking)
  | acknowledge id => exact .quiet rfl (by simp) (h.touched_moveTo id .working)
  | close id => exact .quiet rfl (by simp) (h.touched_moveTo id .closed)
  | route origin m =>
      refine .quiet rfl (by simp) ?_
      simp only [turn, route]
      split
      · exact .none
      · next known => exact h.touched_routed known (Switchboard.id_route ..)
  | dispatch origin route body =>
      refine .quiet rfl (by simp) ?_
      simp only [turn, dispatch]
      split
      · exact .none
      · next known => exact h.touched_routed known (Switchboard.id_dispatch ..)

/-! ## Histories -/

/-- How many connections are made. -/
def made (turns : List (Turn ε)) : Nat := turns.countP isConnect

/-- A connection with the id is made: there are as many, or more. -/
def Made (id : Nat) (turns : List (Turn ε)) : Prop := 0 < id ∧ id ≤ made turns

/-- The connection is released at some turn after the one that made it. -/
def WasReleased (id : Nat) (turns : List (Turn ε)) : Prop :=
  ∃ before t later, turns = before ++ t :: later ∧ t = .event (.release id) ∧ Made id before

/-- A release that finds its connection in the table. -/
def frees (h : Hub ε) : Turn ε → Bool
  | .event (.release id) => (h.release id).2.1.isSome
  | _ => false

/-- How many releases find their connection. -/
def freed (h : Hub ε) : List (Turn ε) → Nat
  | [] => 0
  | t :: turns => (h.frees t).toNat + (h.turn t).freed turns

theorem made_concat (turns : List (Turn ε)) (t : Turn ε) :
    made (turns ++ [t]) = made turns + (isConnect t).toNat := by
  cases connects : isConnect t <;> simp [made, connects]

theorem freed_concat (h : Hub ε) (turns : List (Turn ε)) (t : Turn ε) :
    h.freed (turns ++ [t]) = h.freed turns + ((h.turnAll turns).frees t).toNat := by
  induction turns generalizing h with
  | nil => simp [freed, turnAll]
  | cons first turns ih =>
      simp only [List.cons_append, freed, ih]
      exact (Nat.add_assoc ..).symm

theorem WasReleased.made {id : Nat} {turns : List (Turn ε)} (h : WasReleased id turns) :
    Made id turns := by
  obtain ⟨before, t, later, rfl, -, positive, inside⟩ := h
  refine ⟨positive, Nat.le_trans inside ?_⟩
  simp only [Hub.made, List.countP_append]
  omega

theorem WasReleased.append {id : Nat} {turns : List (Turn ε)} (h : WasReleased id turns)
    (more : List (Turn ε)) : WasReleased id (turns ++ more) := by
  obtain ⟨before, t, later, rfl, released, made⟩ := h
  exact ⟨before, t, later ++ more, by simp, released, made⟩

theorem wasReleased_concat (id : Nat) (turns : List (Turn ε)) (t : Turn ε) :
    WasReleased id (turns ++ [t]) ↔
      (t = .event (.release id) ∧ Made id turns) ∨ WasReleased id turns := by
  let P (before : List (Turn ε)) (t : Turn ε) (_ : List (Turn ε)) : Prop :=
    t = .event (.release id) ∧ Made id before
  have split : (∃ before u later, turns ++ [t] = before ++ u :: later ∧ P before u later) ↔
      P turns t [] ∨ ∃ before u later, turns = before ++ u :: later ∧ P before u (later ++ [t]) :=
    exists_split_concat turns t
  exact split

theorem wasReleased_concat_of_ne {id : Nat} (turns : List (Turn ε)) {t : Turn ε}
    (apart : t ≠ .event (.release id)) : WasReleased id (turns ++ [t]) ↔ WasReleased id turns := by
  simp [wasReleased_concat, apart]

/-! ## The table and its history -/

/-- A table that has seen certain turns, of which so many freed a connection. -/
structure Exact (turns : List (Turn ε)) (freed : Nat) (t : SessionTable) : Prop where
  numbered : t.Numbered
  length : t.connections.length = made turns
  released : ∀ c ∈ t.connections, c.released = true ↔ WasReleased c.id turns
  closed : ∀ c ∈ t.connections, c.released = true → c.status = .closed
  counted : t.count + freed = made turns

theorem exact_empty : Exact ([] : List (Turn ε)) 0 .empty where
  numbered := SessionTable.numbered_empty
  length := rfl
  released := by simp [SessionTable.empty]
  closed := by simp [SessionTable.empty]
  counted := rfl

theorem Exact.made_of_mem {turns : List (Turn ε)} {freed : Nat} {t : SessionTable}
    (h : Exact turns freed t) {c : Connection} (mem : c ∈ t.connections) : Made c.id turns := by
  have listed : c.id ∈ t.ids := List.mem_map_of_mem mem
  rw [h.numbered, List.mem_range'_1, h.length] at listed
  exact ⟨by omega, by omega⟩

theorem Exact.exists_find? {turns : List (Turn ε)} {freed : Nat} {t : SessionTable}
    (h : Exact turns freed t) {id : Nat} (made : Made id turns) : ∃ c, t.find? id = some c := by
  have listed : id ∈ t.ids := by
    obtain ⟨positive, inside⟩ := made
    rw [h.numbered, List.mem_range'_1, h.length]
    omega
  obtain ⟨c, mem, rfl⟩ := List.mem_map.mp listed
  exact ⟨c, find?_of_nodup_key h.numbered.nodup mem⟩

/-- The table holds the connections that were made and not released. -/
theorem Exact.get?_isSome_iff {turns : List (Turn ε)} {freed : Nat} {t : SessionTable}
    (h : Exact turns freed t) (id : Nat) :
    (∃ c, t.get? id = some c) ↔ Made id turns ∧ ¬ WasReleased id turns := by
  simp only [h.numbered.get?_eq_some_iff]
  constructor
  · rintro ⟨c, known, held⟩
    have mem := List.mem_of_find?_eq_some known
    rw [← SessionTable.id_of_find? known, ← h.released c mem, held]
    exact ⟨h.made_of_mem mem, by simp⟩
  · rintro ⟨made, unreleased⟩
    obtain ⟨c, known⟩ := h.exists_find? made
    have released := h.released c (List.mem_of_find?_eq_some known)
    rw [SessionTable.id_of_find? known] at released
    exact ⟨c, known, Bool.eq_false_iff.mpr (mt released.mp unreleased)⟩

theorem Exact.create {turns : List (Turn ε)} {freed : Nat} {t : SessionTable}
    (h : Exact turns freed t) (capacity : Nat) (peer : Address) (now : Nat) :
    Exact (turns ++ [.event (.connect capacity peer)]) freed (t.create capacity peer now).1 := by
  have length := h.length
  refine ⟨h.numbered.create capacity peer now, ?_, ?_, ?_, ?_⟩
  · simp [SessionTable.create, made_concat, isConnect, length]
  · intro c mem
    rw [wasReleased_concat_of_ne turns (by simp)]
    rcases List.mem_append.mp mem with old | new
    · exact h.released c old
    · obtain rfl := List.mem_singleton.mp new
      constructor
      · intro released
        cases released
      · intro released
        have early : t.nextId ≤ made turns := released.made.2
        rw [SessionTable.nextId, length] at early
        omega
  · intro c mem released
    rcases List.mem_append.mp mem with old | new
    · exact h.closed c old released
    · obtain rfl := List.mem_singleton.mp new
      cases released
  · have held : (t.create capacity peer now).1.count = t.count + 1 := by
      simp [SessionTable.count, SessionTable.live, SessionTable.create, Connection.new]
    have counted := h.counted
    simp only [made_concat, isConnect, Bool.toNat_true]
    omega

theorem Exact.touched {turns : List (Turn ε)} {freed : Nat} {t later : SessionTable}
    (h : Exact turns freed t) (touched : t.Touched later) {u : Turn ε} (madeNone : isConnect u = false)
    (releasedNone : ∀ id, u ≠ .event (.release id)) : Exact (turns ++ [u]) freed later := by
  have made : made (turns ++ [u]) = made turns := by simp [made_concat, madeNone]
  have released (id : Nat) : WasReleased id (turns ++ [u]) ↔ WasReleased id turns :=
    wasReleased_concat_of_ne turns (releasedNone id)
  cases touched with
  | none =>
      refine ⟨h.numbered, made ▸ h.length, ?_, h.closed, made ▸ h.counted⟩
      simpa only [released] using h.released
  | @one c now known held final =>
      have mem := List.mem_of_find?_eq_some known
      refine ⟨h.numbered.put now, ?_, ?_, ?_, ?_⟩
      · rw [made, ← h.length, SessionTable.put, List.length_map]
      · intro other inside
        rw [released]
        rcases SessionTable.mem_put inside with rfl | ⟨-, old⟩
        · rw [held, ← SessionTable.id_of_find? known]
          exact h.released c mem
        · exact h.released other old
      · intro other inside gone
        rcases SessionTable.mem_put inside with rfl | ⟨-, old⟩
        · exact final (h.closed c mem (held ▸ gone))
        · exact h.closed other old gone
      · have count := h.numbered.count_put known
        have counted := h.counted
        rw [held] at count
        omega

theorem Exact.release {turns : List (Turn ε)} {freed : Nat} {t : SessionTable}
    (h : Exact turns freed t) (id : Nat) :
    Exact (turns ++ [.event (.release id)]) (freed + (t.get? id).isSome.toNat) (t.release id).1 := by
  have made : made (turns ++ [.event (.release id)]) = made turns := by simp [made_concat, isConnect]
  cases held : t.get? id with
  | none =>
      rw [SessionTable.release_of_none held]
      refine ⟨h.numbered, made ▸ h.length, ?_, h.closed, made ▸ h.counted⟩
      intro c mem
      rw [h.released c mem, wasReleased_concat]
      refine ⟨.inr, ?_⟩
      rintro (⟨same, wasMade⟩ | before)
      · by_contra unreleased
        obtain ⟨_, found⟩ := (h.get?_isSome_iff c.id).mpr ⟨wasMade, unreleased⟩
        simp only [Turn.event.injEq, Event.release.injEq] at same
        rw [← same, held] at found
        cases found
      · exact before
  | some c =>
      rw [SessionTable.release_of_some held]
      obtain ⟨known, unreleased⟩ := h.numbered.get?_eq_some_iff.mp held
      have mem := List.mem_of_find?_eq_some known
      have own : c.id = id := SessionTable.id_of_find? known
      refine ⟨h.numbered.put _, ?_, ?_, ?_, ?_⟩
      · rw [made, ← h.length]
        exact List.length_map ..
      · intro other inside
        rcases SessionTable.mem_put inside with rfl | ⟨apart, old⟩
        · have wasMade := h.made_of_mem mem
          rw [own] at wasMade
          rw [c.id_gone, own, wasReleased_concat]
          simp [Connection.gone, wasMade]
        · rw [c.id_gone, own] at apart
          rw [wasReleased_concat_of_ne turns (by simpa using Ne.symm apart)]
          exact h.released other old
      · intro other inside released
        rcases SessionTable.mem_put inside with rfl | ⟨-, old⟩
        · exact c.status_gone
        · exact h.closed other old released
      · have replaced : t.find? c.gone.id = some c := by rw [c.id_gone, own, known]
        have count := h.numbered.count_put replaced
        have counted := h.counted
        have away : c.gone.released = true := rfl
        simp only [unreleased, away, Bool.not_false, Bool.not_true, Bool.toNat_true,
          Bool.toNat_false] at count
        simp only [Option.isSome_some, Bool.toNat_true, made]
        omega

/-- A released connection is still found by those who hold it, and it is closed. -/
theorem Exact.closed_of_wasReleased {turns : List (Turn ε)} {freed : Nat} {t : SessionTable}
    (h : Exact turns freed t) {id : Nat} (released : WasReleased id turns) :
    ∃ c, t.find? id = some c ∧ c.status = .closed := by
  obtain ⟨c, known⟩ := h.exists_find? released.made
  have mem := List.mem_of_find?_eq_some known
  have gone : c.released = true := by
    apply (h.released c mem).mpr
    rwa [SessionTable.id_of_find? known]
  exact ⟨c, known, h.closed c mem gone⟩

theorem release_of_none {h : Hub ε} {id : Nat} (absent : h.table.get? id = none) :
    h.release id = (h, none, []) := by
  simp only [release, SessionTable.release_of_none absent]

theorem release_of_some {h : Hub ε} {id : Nat} {c : Connection} (held : h.table.get? id = some c) :
    h.release id =
      ({ h with table := h.table.put c.gone }, some c.gone, [SessionTable.releasedLog c.gone]) := by
  simp only [release, SessionTable.release_of_some held]

theorem frees_release (h : Hub ε) (id : Nat) :
    h.frees (.event (.release id)) = (h.table.get? id).isSome := by
  unfold frees
  cases held : h.table.get? id with
  | none => simp only [release_of_none held, Option.isSome_none]
  | some c => simp only [release_of_some held, Option.isSome_some]

theorem Exact.turn {turns : List (Turn ε)} {freed : Nat} {h : Hub ε} (exact : Exact turns freed h.table)
    (t : Turn ε) : Exact (turns ++ [t]) (freed + (h.frees t).toNat) (h.turn t).table := by
  have tended := h.tended_turn t
  generalize (h.turn t).table = later at tended
  cases tended with
  | connect capacity peer => exact exact.create capacity peer h.now
  | release id =>
      rw [frees_release]
      exact exact.release id
  | quiet madeNone releasedNone touched =>
      have freesNone : h.frees t = false := by
        unfold frees
        split
        · next id => exact absurd rfl (releasedNone id)
        · rfl
      rw [freesNone]
      exact exact.touched touched madeNone releasedNone

theorem exact_turnAll {h : Hub ε} (begun : h.table = .empty) (turns : List (Turn ε)) :
    Exact turns (h.freed turns) (h.turnAll turns).table := by
  induction turns using List.reverseRecOn with
  | nil =>
      have same : (h.turnAll []).table = .empty := begun
      rw [same]
      exact exact_empty
  | append_singleton turns t ih =>
      rw [turnAll_concat, freed_concat]
      exact ih.turn t

end Hub

/-! ## Keys of 64 bits -/

/-- The number that a connection goes by and the one that its session does. -/
structure Roster.Names where
  connection : UInt64
  session : UInt64

/-- A table of sessions where numbers have 64 bits: what the connections go by, the number that comes next,
and under each key the connection held there, as a place among them all. -/
structure Roster where
  given : List Roster.Names
  next : UInt64
  held : Std.HashMap UInt64 Nat

namespace Roster

open Hub

def empty : Roster := ⟨[], 1, ∅⟩

def create (r : Roster) : Roster :=
  ⟨r.given ++ [⟨r.next, r.next⟩], r.next + 1, r.held.insert r.next r.given.length⟩

/-- Who releases a connection has its session: that tells the key. -/
def release (r : Roster) (place : Nat) : Roster :=
  match r.given[place]? with
  | none => r
  | some names => { r with held := r.held.erase names.session }

def turn (r : Roster) : Turn ε → Roster
  | .event (.connect ..) => r.create
  | .event (.release (place + 1)) => r.release place
  | _ => r

def turnAll (turns : List (Turn ε)) : Roster := turns.foldl turn empty

/-- A roster that has seen certain turns, of which so many freed a connection. -/
structure Agrees (turns : List (Turn ε)) (freed : Nat) (r : Roster) : Prop where
  given : r.given = (List.range' 1 (made turns)).map fun id => ⟨.ofNat id, .ofNat id⟩
  next : r.next = UInt64.ofNat (made turns + 1)
  held : ∀ key place, r.held[key]? = some place ↔
    key = UInt64.ofNat (place + 1) ∧ place < made turns ∧ ¬ WasReleased (place + 1) turns
  counted : r.held.size + freed = made turns

theorem agrees_empty : Agrees ([] : List (Turn ε)) 0 .empty where
  given := rfl
  next := rfl
  held := by simp [empty, made]
  counted := by simp [empty, made]

theorem eq_of_ofNat_eq {m n : Nat} (small : m < UInt64.size) (small' : n < UInt64.size)
    (same : UInt64.ofNat m = UInt64.ofNat n) : m = n := by
  have numbers := congrArg UInt64.toNat same
  rwa [UInt64.toNat_ofNat_of_lt' small, UInt64.toNat_ofNat_of_lt' small'] at numbers

theorem Agrees.create {turns : List (Turn ε)} {freed : Nat} {r : Roster} (h : Agrees turns freed r)
    (few : made turns + 2 < UInt64.size) (capacity : Nat) (peer : Address) :
    Agrees (turns ++ [.event (.connect capacity peer)]) freed r.create := by
  have made : made (turns ++ [.event (.connect capacity peer)]) = made turns + 1 := by
    simp [made_concat, isConnect]
  have length : r.given.length = Hub.made turns := by simp [h.given]
  have unreleased (place : Nat) : WasReleased (place + 1) (turns ++ [.event (.connect capacity peer)]) ↔
      WasReleased (place + 1) turns := wasReleased_concat_of_ne turns (by simp)
  have fresh : r.held[r.next]? = none := by
    rw [Option.eq_none_iff_forall_ne_some]
    intro place found
    obtain ⟨same, inside, -⟩ := (h.held _ _).mp found
    rw [h.next] at same
    have := eq_of_ofNat_eq (by omega) (by omega) same
    omega
  refine ⟨?_, ?_, ?_, ?_⟩
  · rw [made, List.range'_concat, List.map_append, ← h.given]
    simp [Roster.create, h.next, Nat.add_comm]
  · rw [made, Roster.create, h.next]
    exact (UInt64.ofNat_add ..).symm
  · intro key place
    rw [made, unreleased, Roster.create, Std.HashMap.getElem?_insert, length, h.next]
    by_cases same : UInt64.ofNat (Hub.made turns + 1) = key
    · subst same
      simp only [beq_self_eq_true, if_true, Option.some.injEq]
      constructor
      · rintro rfl
        refine ⟨rfl, by omega, fun released => ?_⟩
        have := released.made.2
        omega
      · rintro ⟨same, inside, -⟩
        have := eq_of_ofNat_eq (by omega) (by omega) same
        omega
    · have other : (UInt64.ofNat (Hub.made turns + 1) == key) = false := by simpa using same
      rw [other, if_neg Bool.false_ne_true, h.held]
      refine and_congr_right fun key_eq => and_congr_left fun _ => ?_
      have apart : place ≠ Hub.made turns := by
        rintro rfl
        exact same key_eq.symm
      omega
  · have absent : r.next ∉ r.held := by simpa using fresh
    have counted := h.counted
    rw [made, Roster.create, Std.HashMap.size_insert, if_neg absent]
    omega

theorem Agrees.mem_held_iff {turns : List (Turn ε)} {freed : Nat} {r : Roster} (h : Agrees turns freed r)
    (few : made turns + 1 < UInt64.size) {place : Nat} (inside : place < made turns) :
    UInt64.ofNat (place + 1) ∈ r.held ↔ ¬ WasReleased (place + 1) turns := by
  rw [Std.HashMap.mem_iff_isSome_getElem?, Option.isSome_iff_exists]
  simp only [h.held]
  constructor
  · rintro ⟨other, same, within, unreleased⟩
    have places := eq_of_ofNat_eq (by omega) (by omega) same
    obtain rfl : place = other := by omega
    exact unreleased
  · intro unreleased
    exact ⟨place, rfl, inside, unreleased⟩

theorem size_erase_of_mem {held : Std.HashMap UInt64 Nat} {key : UInt64} (mem : key ∈ held) :
    (held.erase key).size + 1 = held.size := by
  have some : held.isEmpty = false := Std.HashMap.isEmpty_eq_false_iff_exists_mem.mpr ⟨key, mem⟩
  rw [Std.HashMap.isEmpty_eq_size_eq_zero, beq_eq_false_iff_ne] at some
  rw [Std.HashMap.size_erase, if_pos mem]
  omega

theorem Agrees.release {turns : List (Turn ε)} {freed : Nat} {r : Roster} (h : Agrees turns freed r)
    (few : made turns + 1 < UInt64.size) {t : SessionTable} (exact : Exact turns freed t) (place : Nat) :
    Agrees (turns ++ [.event (.release (place + 1))]) (freed + (t.get? (place + 1)).isSome.toNat)
      (r.release place) := by
  have made : made (turns ++ [.event (.release (place + 1))]) = made turns := by
    simp [made_concat, isConnect]
  have released (other : Nat) : WasReleased (other + 1) (turns ++ [.event (.release (place + 1))]) ↔
      place = other ∧ place < Hub.made turns ∨ WasReleased (other + 1) turns := by
    rw [wasReleased_concat]
    simp only [Turn.event.injEq, Event.release.injEq, Made]
    refine or_congr_left ?_
    omega
  have live : (t.get? (place + 1)).isSome = true ↔
      place < Hub.made turns ∧ ¬ WasReleased (place + 1) turns := by
    rw [Option.isSome_iff_exists, exact.get?_isSome_iff, Made]
    refine and_congr_left fun _ => ?_
    omega
  by_cases inside : place < Hub.made turns
  · have found : r.given[place]? = some ⟨.ofNat (place + 1), .ofNat (place + 1)⟩ := by
      simp [h.given, inside, Nat.add_comm]
    simp only [Roster.release, found]
    refine ⟨made ▸ h.given, made ▸ h.next, ?_, ?_⟩
    · intro key other
      simp only [made, released, Std.HashMap.getElem?_erase]
      by_cases same : UInt64.ofNat (place + 1) = key
      · subst same
        simp only [beq_self_eq_true, if_true, reduceCtorEq, false_iff, not_and, not_not]
        intro same within
        have places := eq_of_ofNat_eq (by omega) (by omega) same
        left
        omega
      · have apart : (UInt64.ofNat (place + 1) == key) = false := by simpa using same
        rw [apart, if_neg Bool.false_ne_true, h.held]
        refine and_congr_right fun key_eq => and_congr_right fun within => ?_
        have distinct : place ≠ other := by
          rintro rfl
          exact same key_eq.symm
        simp [distinct]
    · have counted := h.counted
      rw [made]
      cases known : (t.get? (place + 1)).isSome with
      | true =>
          have held := (h.mem_held_iff few inside).mpr (live.mp known).2
          have size := size_erase_of_mem held
          show (r.held.erase (UInt64.ofNat (place + 1))).size + (freed + 1) = Hub.made turns
          omega
      | false =>
          have absent : UInt64.ofNat (place + 1) ∉ r.held := by
            rw [h.mem_held_iff few inside]
            intro unreleased
            rw [live.mpr ⟨inside, unreleased⟩] at known
            cases known
          rw [Std.HashMap.size_erase, if_neg absent]
          exact counted
  · have none : r.given[place]? = none := by
      rw [h.given, List.getElem?_eq_none_iff, List.length_map, List.length_range']
      omega
    have absent : (t.get? (place + 1)).isSome = false := by
      rw [Bool.eq_false_iff, ne_eq, live]
      exact fun held => inside held.1
    simp only [Roster.release, none, absent, Bool.toNat_false, Nat.add_zero]
    refine ⟨made ▸ h.given, made ▸ h.next, ?_, made ▸ h.counted⟩
    intro key other
    rw [h.held, made, released]
    simp [inside]

theorem Agrees.quiet {turns : List (Turn ε)} {freed : Nat} {r : Roster} (h : Agrees turns freed r)
    {t : Turn ε} (madeNone : isConnect t = false) (releasedNone : ∀ id, t ≠ .event (.release (id + 1))) :
    Agrees (turns ++ [t]) freed r := by
  have made : made (turns ++ [t]) = made turns := by simp [made_concat, madeNone]
  refine ⟨made ▸ h.given, made ▸ h.next, ?_, made ▸ h.counted⟩
  intro key place
  rw [h.held, made, wasReleased_concat_of_ne turns (releasedNone place)]

theorem Agrees.turn {turns : List (Turn ε)} {freed : Nat} {r : Roster} (agrees : Agrees turns freed r)
    {now : Hub ε} (exact : Exact turns freed now.table) (t : Turn ε)
    (few : made (turns ++ [t]) + 1 < UInt64.size) :
    Agrees (turns ++ [t]) (freed + (now.frees t).toNat) (r.turn t) := by
  rw [made_concat] at few
  cases t with
  | event e =>
      cases e with
      | connect capacity peer =>
          simp only [isConnect, Bool.toNat_true] at few
          apply agrees.create
          omega
      | release id =>
          rw [frees_release]
          cases id with
          | zero =>
              have nobody : now.table.get? 0 = none := by
                rw [Option.eq_none_iff_forall_ne_some]
                intro c held
                obtain ⟨⟨positive, -⟩, -⟩ := (exact.get?_isSome_iff 0).mp ⟨c, held⟩
                exact Nat.lt_irrefl 0 positive
              rw [nobody]
              exact agrees.quiet rfl (by simp)
          | succ place =>
              apply agrees.release _ exact
              omega
      | _ => exact agrees.quiet rfl (by simp)
  | _ => exact agrees.quiet rfl (by simp)

theorem agrees_turnAll {h : Hub ε} (begun : h.table = .empty) (turns : List (Turn ε))
    (few : made turns + 1 < UInt64.size) : Agrees turns (h.freed turns) (turnAll turns) := by
  induction turns using List.reverseRecOn with
  | nil => exact agrees_empty
  | append_singleton turns t ih =>
      have before : made turns + 1 < UInt64.size := by
        rw [made_concat] at few
        omega
      have last : turnAll (turns ++ [t]) = (turnAll turns).turn t := by simp [turnAll]
      rw [last, freed_concat]
      exact (ih before).turn (Hub.exact_turnAll begun turns) t few

theorem Agrees.nodup {turns : List (Turn ε)} {freed : Nat} {r : Roster} (h : Agrees turns freed r)
    (few : made turns + 1 < UInt64.size) : (r.given.map (·.connection)).Nodup := by
  rw [h.given, List.map_map]
  refine List.Nodup.map_on ?_ List.nodup_range'
  intro id inside other inside' same
  rw [List.mem_range'_1] at inside inside'
  exact eq_of_ofNat_eq (by omega) (by omega) same

end Roster

namespace Hub

/-- **The table of sessions is exact.** A hub starts with an empty table, and whatever happens there: the next
connection goes by the number of those before it and one. The table holds just the connections that were
made and not released, each under its own id, and counts what was made less what was released. A release
gives back a connection that it finds, closed, and once it was released, or if it never was made, another
one changes nothing. A released connection is closed for ever. Neither a release nor a close touches any
other connection. With numbers of 64 bits that is so too, as long as there are fewer than
`UInt64.size - 1` connections: no two go by one number, their sessions have the same ones, and the keys are
those of the connections that the table holds. -/
theorem table_of_history (h : Hub ε) (begun : h.table = .empty) (turns : List (Turn ε))
    (few : made turns + 1 < UInt64.size) :
    let now := h.turnAll turns
    let roster := Roster.turnAll turns
    (∀ capacity peer, (now.connect capacity peer).2.1.id = made turns + 1) ∧
    (∀ id, (∃ c, now.table.get? id = some c) ↔ Made id turns ∧ ¬ WasReleased id turns) ∧
    (∀ id c, now.table.get? id = some c →
      c.id = id ∧ c.session.id = id ∧ now.table.find? id = some c) ∧
    now.table.count + h.freed turns = made turns ∧
    (∀ id c, now.table.get? id = some c → (now.release id).2.1 = some c.gone ∧
      (now.release id).1.table.find? id = some c.gone ∧ c.gone.status = .closed) ∧
    (∀ id, WasReleased id turns ∨ ¬ Made id turns → now.release id = (now, none, [])) ∧
    (∀ id, WasReleased id turns → ∀ more, ∃ c, (now.turnAll more).table.find? id = some c ∧
      c.status = .closed) ∧
    (∀ id other, other ≠ id → (now.release id).1.table.find? other = now.table.find? other ∧
      (now.onConnection id Connection.close).1.table.find? other = now.table.find? other) ∧
    roster.next = .ofNat (made turns + 1) ∧
    roster.given = (List.range' 1 (made turns)).map (fun id => ⟨.ofNat id, .ofNat id⟩) ∧
    (roster.given.map (·.connection)).Nodup ∧
    (∀ key place, roster.held[key]? = some place ↔
      key = UInt64.ofNat (place + 1) ∧ ∃ c, now.table.get? (place + 1) = some c) ∧
    roster.held.size = now.table.count := by
  intro now roster
  have exact : Exact turns (h.freed turns) now.table := exact_turnAll begun turns
  have agrees : Roster.Agrees turns (h.freed turns) roster := Roster.agrees_turnAll begun turns few
  have counted := exact.counted
  refine ⟨?_, exact.get?_isSome_iff, ?_, counted, ?_, ?_, ?_, ?_, agrees.next, agrees.given,
    agrees.nodup few, ?_, ?_⟩
  · intro capacity peer
    show now.table.nextId = made turns + 1
    rw [SessionTable.nextId, exact.length]
  · intro id c held
    have known := exact.numbered.find?_of_get? held
    have own : c.session.id = id := SessionTable.id_of_find? known
    exact ⟨own, own, known⟩
  · intro id c held
    have known := exact.numbered.find?_of_get? held
    have own : c.gone.id = id := c.id_gone.trans (SessionTable.id_of_find? known)
    rw [release_of_some held]
    refine ⟨rfl, ?_, c.status_gone⟩
    simp [SessionTable.find?_put, own, known]
  · intro id away
    apply release_of_none
    rw [Option.eq_none_iff_forall_ne_some]
    intro c held
    obtain ⟨wasMade, unreleased⟩ := (exact.get?_isSome_iff id).mp ⟨c, held⟩
    exact away.elim unreleased fun never => never wasMade
  · intro id released more
    have longer := exact_turnAll begun (turns ++ more)
    have same : h.turnAll (turns ++ more) = now.turnAll more := List.foldl_append
    rw [same] at longer
    exact longer.closed_of_wasReleased (released.append more)
  · intro id other apart
    rw [release_eq]
    refine ⟨now.table.find?_release_of_ne apart.symm, ?_⟩
    rw [find?_onConnection (f := Connection.close) fun c => c.id_moveTo .closed, if_neg apart]
  · intro key place
    rw [agrees.held, exact.get?_isSome_iff, Made]
    refine and_congr_right fun _ => and_congr_left fun _ => ?_
    omega
  · have sized := agrees.counted
    omega

/-- Three clients come. The second is closed and released, and released again while the third is there. -/
theorem table_of_history_of_three :
    let h : Hub Unit := ⟨{}, ⟨.empty "chat", .empty 1⟩, .empty, [], 0⟩
    let peer : Address := ⟨.v4 127 0 0 1, 3250⟩
    let turns : List (Turn Unit) := [.event (.connect 1 peer), .event (.connect 1 peer), .close 2,
      .event (.release 2), .event (.connect 1 peer), .event (.release 2)]
    let now := h.turnAll turns
    h.table = .empty ∧ made turns + 1 < UInt64.size ∧ WasReleased 2 turns ∧ now.table.count = 2 ∧
      (∃ c, now.table.get? 3 = some c) ∧ now.release 2 = (now, none, []) := by
  intro h peer turns now
  have few : made turns + 1 < UInt64.size := by decide
  have released : WasReleased 2 turns :=
    ⟨turns.take 3, .event (.release 2), turns.drop 4, rfl, rfl, by decide, by decide⟩
  obtain ⟨-, holds, -, counted, -, gone, -⟩ := table_of_history h rfl turns few
  have counts : h.freed turns = 1 ∧ made turns = 3 := by decide +kernel
  refine ⟨rfl, few, released, ?_, (holds 3).mpr ⟨⟨by decide, by decide⟩, ?_⟩, gone 2 (.inl released)⟩
  · rw [counts.1, counts.2] at counted
    exact Nat.add_right_cancel counted
  · rintro ⟨before, t, later, split, rfl, -⟩
    have mem : .event (.release 3) ∈ turns := by simp [split]
    simp [turns] at mem

end Hub

end Connector
