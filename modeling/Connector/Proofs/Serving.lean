import Connector.Proofs.Living
import Connector.Proofs.Nodes

/-! A node from its first connection to its end.

* `Line.Step.lives`: the table holds sessions of lines at work only;
* `Node.Admits`: every permit is free, in the acceptor's hand or with a line that is not over;
* `Node.Tends`: latches tell whether the signal was sent, and the completion waits for every line that is not
  over;
* `Node.Tallies`: lines are accepted and over as often as the moves so far tell;
* `Node.within_limit_and_all_ended`: so it is after any moves, and once the node has stopped all is over. -/

namespace Connector

variable {ε : Type}

/-! ## Latches -/

namespace Shutdown

/-- Whether the wait for the signal is over, looked at or not. -/
def isReady (s : Shutdown) : Bool := s.seen || s.pending || s.senderGone

theorem recv_told (s : Shutdown) : s.recv.2 = s.isReady := by
  obtain ⟨pending, senderGone, seen⟩ := s
  cases pending <;> cases senderGone <;> cases seen <;> rfl

theorem isReady_recv (s : Shutdown) : s.recv.1.isReady = s.isReady := by
  obtain ⟨pending, senderGone, seen⟩ := s
  cases pending <;> cases senderGone <;> cases seen <;> rfl

theorem isReady_send (s : Shutdown) : s.send.1.isReady = true := by
  obtain ⟨pending, senderGone, seen⟩ := s
  cases pending <;> cases senderGone <;> cases seen <;> rfl

/-- The latch after so many looks. -/
def looked (s : Shutdown) : Nat → Shutdown
  | 0 => s
  | looks + 1 => s.recv.1.looked looks

theorem looked_recv_told (s : Shutdown) (looks : Nat) : (s.looked looks).recv.2 = s.isReady := by
  induction looks generalizing s with
  | zero => exact s.recv_told
  | succ looks ih => exact (ih s.recv.1).trans s.isReady_recv

end Shutdown

/-! ## Lines -/

namespace Line

variable {l next : Line} {h later : Hub ε} {m : Move}

theorem isLeft_eq_false (l : Line) : l.isLeft = false ↔ l.stage ≠ .left := by
  simp [isLeft]

theorem Step.not_isLeft (step : l.Step h m next later) : l.isLeft = false := by
  rw [isLeft_eq_false]
  cases step with
  | start spawned => simp [spawned]
  | inner serves | release serves | finish serves | write serves => exact serves.2
  | stop serving => simp [serving]
  | leave stopping => simp [stopping]

theorem Step.isLeft_eq (step : l.Step h m next later) : next.isLeft = decide (m = .leave) := by
  have before := step.not_isLeft
  cases step with
  | start | stop | leave => simp [isLeft]
  | release | finish | write => simpa [isLeft] using before
  | inner _ isInner =>
      have other : m ≠ .leave := by
        rintro rfl
        exact isInner
      simpa [isLeft, other] using before

theorem Step.isReady_latch (step : l.Step h m next later) : next.latch.isReady = l.latch.isReady := by
  cases step with
  | inner _ _ latch inlet looked =>
      rcases looked with rfl | rfl
      · rfl
      · exact l.latch.isReady_recv
  | start | release | finish | stop | write | leave => rfl

/-- The line has a session that it did not release yet. -/
def Holds (l : Line) (id : Nat) : Prop :=
  l.session = id ∧ l.stage ≠ .spawned ∧ l.pipeline.reader.stage < 2

/-- Whoever lives after a move is held by the line, or lived before. -/
theorem Step.lives (step : l.Step h m next later) (sound : l.Sound) {id : Nat}
    (lives : later.table.Lives id) :
    next.Holds id ∨ h.table.Lives id ∧ (l.Holds id → next.Holds id) := by
  cases step with
  | start spawned =>
      rcases SessionTable.lives_create lives with made | old
      · refine .inl ⟨made.symm, nofun, ?_⟩
        rw [sound.spawned spawned]
        exact Nat.zero_lt_two
      · exact .inr ⟨old, fun holds => absurd spawned holds.2.1⟩
  | inner _ _ latch inlet _ move other pipeline stepped =>
      refine .inr ⟨lives, fun ⟨own, begun, early⟩ => ⟨own, begun, ?_⟩⟩
      exact Pipeline.stage_lt_of_step? stepped other early
  | release _ pipeline stepped =>
      rw [Hub.release_eq] at lives
      obtain ⟨other, old⟩ := SessionTable.lives_release lives
      exact .inr ⟨old, fun holds => absurd holds.1.symm other⟩
  | finish _ p current pipeline stepped =>
      refine .inr ⟨Hub.lives_process lives, fun ⟨own, begun, early⟩ => ⟨own, begun, ?_⟩⟩
      exact Pipeline.stage_lt_of_step? stepped (by simp) early
  | stop => exact .inr ⟨lives, fun ⟨own, _, early⟩ => ⟨own, nofun, early⟩⟩
  | write _ move c found writer outbound stepped =>
      have same : ({ c.session with outbound } : Session).id = c.session.id := rfl
      exact .inr ⟨Hub.lives_putSession found same lives, fun holds => holds⟩
  | leave => exact .inr ⟨lives, fun ⟨own, _, early⟩ => ⟨own, nofun, early⟩⟩

end Line

namespace Node

variable {limit : Nat} {n next : Node ε} {m : Move} {moves : List Move} {t : Trace ε}

/-! ## Permits -/

/-- A permit for a connection that is still to come. -/
def unspent (n : Node ε) : Nat := if n.acceptor.isAdmitted then 1 else 0

structure Admits (limit : Nat) (n : Node ε) : Prop where
  permits : n.admission.free + n.unspent + n.served = limit
  serving : n.acceptor = .idle ∨ n.acceptor.isAdmitted = true → n.phase = .serving

theorem admits_new (hub : Hub ε) : (new hub).Admits hub.settings.network.maxConnection where
  permits := rfl
  serving _ := rfl

/-- Nobody accepts once the signal was sent. -/
theorem Admits.unsignalled (admits : n.Admits limit)
    (accepting : n.acceptor = .idle ∨ n.acceptor.isAdmitted = true) : n.phase.isSignalled = false := by
  rw [admits.serving accepting]
  rfl

theorem unspent_of_isAdmitted (admitted : n.acceptor.isAdmitted = true) : n.unspent = 1 := if_pos admitted

theorem unspent_of_not_isAdmitted (idle : n.acceptor.isAdmitted = false) : n.unspent = 0 := by
  rw [unspent, idle]
  rfl

theorem countP_set_add {α : Type} {p : α → Bool} {xs : List α} {i : Nat} {x : α}
    (found : xs[i]? = some x) (y : α) :
    (xs.set i y).countP p + (if p x then 1 else 0) = xs.countP p + if p y then 1 else 0 := by
  obtain ⟨inside, rfl⟩ := List.getElem?_eq_some_iff.mp found
  have counted : (if p xs[i] then 1 else 0) ≤ xs.countP p := by
    split
    · next holds => exact List.countP_pos_iff.mpr ⟨_, List.getElem_mem inside, holds⟩
    · exact Nat.zero_le _
  rw [List.countP_set inside]
  omega

theorem Admits.step (admits : n.Admits limit) (step : n.Step m next) : next.Admits limit := by
  obtain ⟨permits, serving⟩ := admits
  have closed (other : n.phase ≠ .serving) : ¬ (n.acceptor = .idle ∨ n.acceptor.isAdmitted = true) :=
    fun accepting => other (serving accepting)
  have nobody {acceptor : Acceptor} (ended : acceptor ≠ .idle ∧ acceptor.isAdmitted = false) :
      ¬ (acceptor = .idle ∨ acceptor.isAdmitted = true) := by
    simp [ended]
  cases step with
  | outer | part => exact ⟨permits, serving⟩
  | arrive index a l found =>
      have same : (n.lines.set index (l.arrive a)).countP (·.isServed) = n.served :=
        Nat.add_right_cancel (countP_set_add found (l.arrive a))
      exact ⟨(congrArg (n.admission.free + n.unspent + ·) same).trans permits, serving⟩
  | permit idle free taken =>
      rw [unspent_of_not_isAdmitted (by rw [idle]; rfl), taken] at permits
      exact ⟨permits, fun _ => serving (.inl idle)⟩
  | refuse idle cause =>
      rw [unspent_of_not_isAdmitted (by rw [idle]; rfl)] at permits
      exact ⟨permits, fun accepting => absurd accepting (nobody ⟨nofun, rfl⟩)⟩
  | accept admitted peer script backlog =>
      rw [unspent_of_isAdmitted admitted] at permits
      refine ⟨?_, fun _ => serving (.inr admitted)⟩
      have more : (n.lines ++ [Line.accept n.hub.settings peer script]).countP (·.isServed) =
          n.served + 1 := List.countP_append
      exact (congrArg (n.admission.free + 0 + ·) more).trans (by omega)
  | retry text admitted backoff =>
      rw [unspent_of_isAdmitted admitted] at permits
      exact ⟨permits, fun _ => serving (.inr admitted)⟩
  | giveUp text admitted cause =>
      rw [unspent_of_isAdmitted admitted] at permits
      exact ⟨permits, fun accepting => absurd accepting (nobody ⟨nofun, rfl⟩)⟩
  | line index m l found next hub step =>
      refine ⟨?_, serving⟩
      have counted := countP_set_add (p := (·.isServed)) found next
      have before : l.isServed = true := by rw [Line.isServed, step.not_isLeft]; rfl
      rw [if_pos before] at counted
      show (if next.isLeft then n.admission.giveBack else n.admission).free + n.unspent +
        (n.lines.set index next).countP (·.isServed) = limit
      cases left : next.isLeft with
      | true =>
          have after : ¬ next.isServed = true := by simp [Line.isServed, left]
          have back : n.admission.giveBack.free = n.admission.free + 1 := rfl
          rw [if_neg after] at counted
          rw [if_pos rfl]
          unfold served at permits
          omega
      | false =>
          have after : next.isServed = true := by simp [Line.isServed, left]
          rw [if_pos after] at counted
          rw [if_neg Bool.false_ne_true]
          unfold served at permits
          omega
  | shutDown =>
      refine ⟨?_, fun accepting => absurd accepting (nobody ⟨nofun, rfl⟩)⟩
      cases admitted : n.acceptor.isAdmitted with
      | true =>
          rwa [unspent_of_isAdmitted admitted] at permits
      | false => rwa [unspent_of_not_isAdmitted admitted] at permits
  | signal closing =>
      refine ⟨?_, fun accepting => absurd accepting (closed (by simp [closing]))⟩
      have same : (n.lines.map Node.signal).countP (·.isServed) = n.served := by
        rw [List.countP_map]
        rfl
      exact (congrArg (n.admission.free + n.unspent + ·) same).trans permits
  | dismiss signalled =>
      exact ⟨permits, fun accepting => absurd accepting (closed (by simp [signalled]))⟩
  | complete waiting =>
      exact ⟨permits, fun accepting => absurd accepting (closed (by simp [waiting]))⟩

/-! ## Lines, sessions and the completion -/

structure Tends (n : Node ε) : Prop where
  sound : ∀ l ∈ n.lines, l.Sound
  ready : ∀ l ∈ n.lines, l.latch.isReady = n.phase.isSignalled
  held : ∀ id, n.hub.table.Lives id → ∃ l ∈ n.lines, l.Holds id
  waited : ∀ i l, n.lines[i]? = some l → l.isLeft = false → i ∈ n.completion.lines
  stopped : n.phase = .stopped → n.completion.lines = []

theorem tends_new {hub : Hub ε} (unused : hub.table.count = 0) : (new hub).Tends where
  sound _ mem := by cases mem
  ready _ mem := by cases mem
  held id lives := absurd lives ((SessionTable.count_eq_zero_iff _).mp unused id)
  waited _ _ found := by cases found
  stopped finished := by cases finished

/-- A line becomes another. -/
theorem Tends.set (tends : n.Tends) {index : Nat} {l next : Line} (found : n.lines[index]? = some l)
    {hub : Hub ε} (sound : next.Sound) (ready : next.latch.isReady = l.latch.isReady)
    (left : l.isLeft = true → next.isLeft = true)
    (lives : ∀ id, hub.table.Lives id →
      next.Holds id ∨ n.hub.table.Lives id ∧ (l.Holds id → next.Holds id))
    (admission : Admission) :
    Tends { n with hub, admission, lines := n.lines.set index next } := by
  have inside : index < n.lines.length := (List.getElem?_eq_some_iff.mp found).1
  have mem : next ∈ n.lines.set index next := List.mem_set inside next
  refine ⟨?_, ?_, ?_, ?_, tends.stopped⟩
  · intro other mem
    rcases List.mem_or_eq_of_mem_set mem with old | rfl
    · exact tends.sound other old
    · exact sound
  · intro other mem
    rcases List.mem_or_eq_of_mem_set mem with old | rfl
    · exact tends.ready other old
    · exact ready.trans (tends.ready l (List.mem_of_getElem? found))
  · intro id lives'
    rcases lives id lives' with holds | ⟨old, stays⟩
    · exact ⟨next, mem, holds⟩
    · obtain ⟨other, known, holds⟩ := tends.held id old
      obtain ⟨i, found'⟩ := List.mem_iff_getElem?.mp known
      by_cases same : index = i
      · subst same
        obtain rfl := Option.some.inj (found.symm.trans found')
        exact ⟨next, mem, stays holds⟩
      · refine ⟨other, List.mem_iff_getElem?.mpr ⟨i, ?_⟩, holds⟩
        rwa [List.getElem?_set_ne same]
  · intro i other found' unfinished
    by_cases same : index = i
    · subst same
      refine tends.waited index l found ?_
      rw [List.getElem?_set_self inside] at found'
      obtain rfl := Option.some.inj found'
      exact Bool.eq_false_iff.mpr fun finished => by simp [left finished] at unfinished
    · rw [List.getElem?_set_ne same] at found'
      exact tends.waited i other found' unfinished

theorem Tends.step (tends : n.Tends) (admits : n.Admits limit) (step : n.Step m next) : next.Tends := by
  have ⟨sound, ready, held, waited, stopped⟩ := tends
  cases step with
  | outer | permit | retry => exact ⟨sound, ready, held, waited, stopped⟩
  | arrive index a l found =>
      exact tends.set found
        ((sound l (List.mem_of_getElem? found)).arrive a) rfl id
        (fun _ lives => .inr ⟨lives, id⟩) n.admission
  | refuse idle =>
      exact ⟨sound, fun l mem => (ready l mem).trans (admits.unsignalled (.inl idle)), held, waited, nofun⟩
  | giveUp _ admitted =>
      exact ⟨sound, fun l mem => (ready l mem).trans (admits.unsignalled (.inr admitted)), held, waited, nofun⟩
  | shutDown serving =>
      exact ⟨sound, fun l mem => (ready l mem).trans (by rw [serving]; rfl), held, waited, nofun⟩
  | dismiss signalled =>
      exact ⟨sound, fun l mem => (ready l mem).trans (by rw [signalled]; rfl), held, waited, nofun⟩
  | complete waiting finished =>
      exact ⟨sound, fun l mem => (ready l mem).trans (by rw [waiting]; rfl), held, waited, fun _ => finished⟩
  | accept admitted peer script backlog =>
      refine ⟨?_, ?_, ?_, ?_, ?_⟩
      · intro l mem
        rcases List.mem_append.mp mem with old | new
        · exact sound l old
        · obtain rfl := List.mem_singleton.mp new
          exact Line.sound_accept ..
      · intro l mem
        rcases List.mem_append.mp mem with old | new
        · exact ready l old
        · obtain rfl := List.mem_singleton.mp new
          exact (admits.unsignalled (.inr admitted)).symm
      · intro id lives
        obtain ⟨l, mem, holds⟩ := held id lives
        exact ⟨l, List.mem_append_left _ mem, holds⟩
      · intro i l found unfinished
        rcases Nat.lt_or_ge i n.lines.length with old | new
        · rw [List.getElem?_append_left old] at found
          exact List.mem_append_left _ (waited i l found unfinished)
        · have bound := (List.getElem?_eq_some_iff.mp found).1
          have last : i = n.lines.length := by
            simp only [List.length_append, List.length_singleton] at bound
            omega
          simp [Completion.join, last]
      · intro finished
        simp [admits.serving (.inr admitted)] at finished
  | line index m l found next hub step =>
      exact tends.set found
        ((sound l (List.mem_of_getElem? found)).step step) step.isReady_latch
        (fun left => by simp [step.not_isLeft] at left)
        (fun id lives => step.lives (sound l (List.mem_of_getElem? found)) lives) _
  | part index l found left =>
      refine ⟨sound, ready, held, ?_, ?_⟩
      · intro i other found' unfinished
        have apart : i ≠ index := by
          rintro rfl
          obtain rfl := Option.some.inj (found.symm.trans found')
          simp [left] at unfinished
        simpa [Completion.part, apart] using waited i other found' unfinished
      · intro finished
        simp [Completion.part, stopped finished]
  | signal closing =>
      refine ⟨?_, ?_, ?_, ?_, nofun⟩
      · intro l mem
        obtain ⟨old, known, rfl⟩ := List.mem_map.mp mem
        exact (sound old known).signal
      · intro l mem
        obtain ⟨old, -, rfl⟩ := List.mem_map.mp mem
        exact old.latch.isReady_send
      · intro id lives
        obtain ⟨l, mem, holds⟩ := held id lives
        exact ⟨Node.signal l, List.mem_map_of_mem mem, holds⟩
      · intro i l found unfinished
        rw [List.getElem?_map] at found
        obtain ⟨old, known, rfl⟩ := Option.map_eq_some_iff.mp found
        exact waited i old known unfinished

/-! ## What the moves tell -/

/-- Whether a line is over, as a number. -/
def gone (n : Node ε) (index : Nat) : Nat := if n.lines[index]?.any (·.isLeft) then 1 else 0

structure Tallies (n : Node ε) (moves : List Move) : Prop where
  accepted : moves.count .accept = n.lines.length
  left : ∀ i, moves.count (.line i .leave) = n.gone i
  signalled : .signal ∈ moves ↔ n.phase.isSignalled = true

theorem tallies_new (hub : Hub ε) : (new hub).Tallies [] where
  accepted := rfl
  left _ := rfl
  signalled := by simp [new, Phase.isSignalled]

theorem count_concat (moves : List Move) (m other : Move) :
    (moves ++ [m]).count other = moves.count other + if m = other then 1 else 0 := by
  rw [List.count_append, List.count_singleton]
  by_cases same : m = other
  · simp [same]
  · simp [same]

theorem count_concat_of_ne {other : Move} (apart : m ≠ other) :
    (moves ++ [m]).count other = moves.count other := by
  rw [count_concat, if_neg apart, Nat.add_zero]

/-- A move that neither accepts nor ends a line nor sends the signal. -/
theorem Tallies.of_quiet (tallies : n.Tallies moves) (accepts : m ≠ .accept)
    (ends : ∀ i, m ≠ .line i .leave) (signals : m ≠ .signal)
    (length : next.lines.length = n.lines.length) (gone : ∀ i, next.gone i = n.gone i)
    (phase : next.phase.isSignalled = n.phase.isSignalled) : next.Tallies (moves ++ [m]) where
  accepted := by rw [count_concat_of_ne accepts, length, tallies.accepted]
  left i := by rw [count_concat_of_ne (ends i), gone, tallies.left]
  signalled := by
    rw [phase, ← tallies.signalled, List.mem_append, List.mem_singleton]
    exact or_iff_left fun same => signals same.symm

theorem gone_set {index : Nat} {l later : Line} (found : n.lines[index]? = some l) (i : Nat)
    {hub : Hub ε} {admission : Admission} :
    gone { n with hub, admission, lines := n.lines.set index later } i =
      if i = index then (if later.isLeft then 1 else 0) else n.gone i := by
  have inside : index < n.lines.length := (List.getElem?_eq_some_iff.mp found).1
  unfold gone
  by_cases same : i = index
  · subst same
    simp [inside]
  · simp [same, Ne.symm same]

theorem gone_of_getElem? {index : Nat} {l : Line} (found : n.lines[index]? = some l) :
    n.gone index = if l.isLeft then 1 else 0 := by
  rw [gone, found]
  rfl

theorem Tallies.step (tallies : n.Tallies moves) (admits : n.Admits limit) (step : n.Step m next) :
    next.Tallies (moves ++ [m]) := by
  cases step with
  | outer isOuter =>
      refine tallies.of_quiet ?_ ?_ ?_ rfl (fun _ => rfl) rfl
      · rintro rfl
        exact isOuter
      · rintro i rfl
        exact isOuter
      · rintro rfl
        exact isOuter
  | permit | retry | part => exact tallies.of_quiet (by simp) (by simp) (by simp) rfl (fun _ => rfl) rfl
  | arrive index a l found =>
      refine tallies.of_quiet (by simp) (by simp) (by simp) List.length_set (fun i => ?_) rfl
      refine (gone_set found i).trans ?_
      split
      · next same => exact same ▸ (gone_of_getElem? found).symm
      · rfl
  | refuse idle =>
      exact tallies.of_quiet (by simp) (by simp) (by simp) rfl (fun _ => rfl)
        (admits.unsignalled (.inl idle)).symm
  | giveUp _ admitted =>
      exact tallies.of_quiet (by simp) (by simp) (by simp) rfl (fun _ => rfl)
        (admits.unsignalled (.inr admitted)).symm
  | shutDown serving =>
      exact tallies.of_quiet (by simp) (by simp) (by simp) rfl (fun _ => rfl) (by rw [serving]; rfl)
  | dismiss signalled =>
      exact tallies.of_quiet (by simp) (by simp) (by simp) rfl (fun _ => rfl) (by rw [signalled]; rfl)
  | complete waiting =>
      exact tallies.of_quiet (by simp) (by simp) (by simp) rfl (fun _ => rfl) (by rw [waiting]; rfl)
  | accept admitted peer script backlog =>
      refine ⟨?_, ?_, ?_⟩
      · rw [count_concat, tallies.accepted, if_pos rfl, List.length_append]
        rfl
      · intro i
        rw [count_concat_of_ne (by simp), tallies.left, gone, gone]
        rcases Nat.lt_trichotomy i n.lines.length with old | last | new
        · rw [List.getElem?_append_left old]
        · subst last
          simp [Line.isLeft, Line.accept]
        · have beyond : (n.lines ++ [Line.accept n.hub.settings peer script]).length ≤ i := by
            rw [List.length_append]
            exact new
          rw [List.getElem?_eq_none (Nat.le_of_lt new), List.getElem?_eq_none beyond]
      · rw [← tallies.signalled]
        simp
  | line index m l found next hub step =>
      refine ⟨?_, fun i => ?_, ?_⟩
      · rw [count_concat_of_ne (by simp), tallies.accepted]
        exact List.length_set.symm
      · refine Eq.trans ?_ (gone_set found i).symm
        rw [count_concat, tallies.left, step.isLeft_eq]
        by_cases same : i = index
        · subst same
          rw [gone_of_getElem? found, step.not_isLeft]
          simp
        · simp [same, Ne.symm same]
      · rw [List.mem_append, ← tallies.signalled]
        simp
  | signal closing =>
      refine ⟨?_, fun i => ?_, ?_⟩
      · rw [count_concat_of_ne (by simp), tallies.accepted]
        exact (List.length_map ..).symm
      · rw [count_concat_of_ne (by simp), tallies.left, gone, gone, List.getElem?_map]
        cases n.lines[i]? with
        | none => rfl
        | some l => rfl
      · simp [Phase.isSignalled]

/-! ## Runs -/

/-- **The limit holds, and a shutdown waits for everyone.** Whatever moves a node makes with its clients
and lines, in whatever order: the connections that it serves are never more than the limit. Every permit
is free, in the hand of the acceptor or with a line that is not over, and every line that is over gave its
permit back once. The latch of any line that was ever accepted is ready from the signal on and no sooner,
however often it was looked at, and nothing is accepted any more then. Once the node has stopped, every
line that was ever accepted is over with its processor and its writer, the table holds no session, and all
permits are back. -/
theorem within_limit_and_all_ended (hub : Hub ε) (unused : hub.table.count = 0) (moves : List Move)
    (n : Node ε) (t : Trace ε) (ran : (new hub).run? moves = some (n, t)) :
    let limit := hub.settings.network.maxConnection
    n.served ≤ limit ∧
    n.admission.free + n.unspent + n.served = limit ∧
    n.lines.length = moves.count .accept ∧
    (∀ i l, n.lines[i]? = some l → moves.count (.line i .leave) = if l.isLeft then 1 else 0) ∧
    (∀ l ∈ n.lines, ∀ looks, (l.latch.looked looks).recv.2 = decide (.signal ∈ moves)) ∧
    (.signal ∈ moves → n.accept? = none) ∧
    (n.phase = .stopped →
      (∀ l ∈ n.lines, l.isLeft = true ∧ l.pipeline.isExited = true ∧ l.writer.isExited = true) ∧
      n.hub.table.count = 0 ∧ n.admission.free = limit) := by
  intro limit
  have kept : n.Admits limit ∧ n.Tends ∧ n.Tallies ([] ++ moves) := by
    refine keeps_of_run? (P := fun moves n => n.Admits limit ∧ n.Tends ∧ n.Tallies moves) ?_
      ⟨admits_new hub, tends_new unused, tallies_new hub⟩ ran
    rintro before n m next ⟨admits, tends, tallies⟩ step
    exact ⟨admits.step step, tends.step admits step, tallies.step admits step⟩
  obtain ⟨admits, tends, tallies⟩ := kept
  rw [List.nil_append] at tallies
  have permits := admits.permits
  refine ⟨by omega, permits, tallies.accepted.symm, ?_, ?_, ?_, ?_⟩
  · intro i l found
    rw [tallies.left, gone_of_getElem? found]
  · intro l mem looks
    rw [Shutdown.looked_recv_told, tends.ready l mem, Bool.eq_iff_iff, decide_eq_true_iff,
      tallies.signalled]
  · intro sent
    have signalled := tallies.signalled.mp sent
    cases admitted : n.acceptor with
    | admitted backoff =>
        rw [admits.serving (.inr (by rw [admitted]; rfl))] at signalled
        cases signalled
    | idle | stopped | failed => simp [accept?, admitted]
  · intro stopped
    have none := tends.stopped stopped
    have finished : ∀ l ∈ n.lines, l.isLeft = true := by
      intro l mem
      obtain ⟨i, found⟩ := List.mem_iff_getElem?.mp mem
      refine Bool.not_eq_false _ ▸ fun unfinished => ?_
      have waits := tends.waited i l found unfinished
      rw [none] at waits
      cases waits
    have left : ∀ l ∈ n.lines, l.stage = .left := fun l mem => by simpa [Line.isLeft] using finished l mem
    refine ⟨?_, ?_, ?_⟩
    · intro l mem
      have sound := tends.sound l mem
      have exited := sound.exited (sound.joined (.inr (left l mem)))
      exact ⟨finished l mem, by rw [Pipeline.isExited, exited], sound.left (left l mem)⟩
    · refine (SessionTable.count_eq_zero_iff _).mpr fun id lives => ?_
      obtain ⟨l, mem, -, -, early⟩ := tends.held id lives
      rw [(tends.sound l mem).joined (.inr (left l mem))] at early
      exact absurd early (by decide)
    · have none : n.served = 0 := List.countP_eq_zero.mpr fun l mem => by simp [Line.isServed, finished l mem]
      have unspent : n.unspent = 0 := by
        refine unspent_of_not_isAdmitted (Bool.eq_false_iff.mpr fun admitted => ?_)
        rw [admits.serving (.inr admitted)] at stopped
        cases stopped
      omega

/-- One client gets the only permit, another one none. The signal goes out before the line of the first
has begun. -/
theorem within_limit_and_all_ended_of_late_line :
    let settings : Settings := { network := { maxConnection := 1 } }
    let hub : Hub Unit := ⟨settings, ⟨.empty "chat", .empty 1⟩, .empty, [], 0⟩
    let moves := [.permit, .connect ⟨.v4 127 0 0 1, 3250⟩, .connect ⟨.v4 127 0 0 1, 3251⟩, .accept,
      .shutDown, .signal, .dismiss] ++
      [.start, .notice, .release, .detach, .cancel, .drain, .receive, .join, .stop, .write .stop,
        .write .receive, .write .flushed, .write .flushed, .leave].map (.line 0) ++ [.part 0, .complete]
    hub.table.count = 0 ∧ ∃ n t, (new hub).run? moves = some (n, t) ∧ n.backlog.length = 1 ∧
      n.lines.length = 1 ∧ (∀ l ∈ n.lines, l.isLeft = true ∧ l.pipeline.isExited = true) ∧
      n.hub.table.count = 0 := by
  intro settings hub moves
  have ran : ((new hub).run? moves).map (fun p => (p.1.phase, p.1.backlog.length, p.1.lines.length)) =
      some (.stopped, 1, 1) := by
    decide +kernel
  obtain ⟨⟨n, t⟩, ran, same⟩ := Option.map_eq_some_iff.mp ran
  obtain ⟨stopped, backlog, lines⟩ :
      n.phase = .stopped ∧ n.backlog.length = 1 ∧ n.lines.length = 1 := by
    simpa using same
  obtain ⟨-, -, -, -, -, -, ended⟩ := within_limit_and_all_ended hub rfl moves n t ran
  obtain ⟨finished, empty, -⟩ := ended stopped
  exact ⟨rfl, n, t, ran, backlog, lines, fun l mem => ⟨(finished l mem).1, (finished l mem).2.1⟩, empty⟩

end Node

end Connector
