import Mathlib.Data.List.Induction
import Mathlib.Data.List.Nodup
import Connector.Proofs.Registration

/-! Registrations that are under way at once. Each takes two steps, and the steps of others may come in
between.

* `Registry.firstStep`, `Registry.secondStep`: a registration in two steps;
* `Registry.Contest`: any number of them, with their steps in any order;
* `Registry.Moved`, `Registry.moved_move`: with its last step a registration has done, at that moment, what it
  does in one go;
* `Registry.Explained`, `Registry.Paced`: what holds all along, for the outcome and for the steps;
* `Registry.contest_in_order`: so some order of whole registrations explains everything, and of those that want
  the same name one is accepted. -/

namespace Connector

namespace Registry

variable {μ : Type}

/-! ## Steps -/

/-- What somebody wants to register. -/
structure Bid (μ : Type) where
  typeName : String
  candidates : List (Candidate μ)

/-- How far a bid has come. Between its steps it holds what it is going to commit. -/
inductive Stage (μ : Type) where
  | waiting
  | checked (name : String) (table : List (String × μ))
  | ended (result : Except RegistrationError Unit)

/-- The name is checked against the registry, then the candidates are looked at. -/
def firstStep (r : Registry μ) (b : Bid μ) : Stage μ :=
  match r.check b.typeName with
  | .error e => .ended (.error e)
  | .ok name =>
      match Candidate.table b.candidates with
      | [] =>
          if Candidate.anyExclusive b.candidates then .ended (.error (.exclusiveReceiver name))
          else .ended (.error (.noSuitableMethods name))
      | table => .checked name table

def secondStep (r : Registry μ) (b : Bid μ) (name : String) (table : List (String × μ)) :
    Registry μ × Except RegistrationError Unit :=
  match r.commit name b.typeName table with
  | .error e => (r, .error e)
  | .ok (registry, _) => (registry, .ok ())

/-- The next step of a bid, if it has one left. -/
def move (r : Registry μ) (b : Bid μ) : Stage μ → Registry μ × Stage μ
  | .waiting => (r, r.firstStep b)
  | .checked name table =>
      let (registry, result) := r.secondStep b name table
      (registry, .ended result)
  | .ended result => (r, .ended result)

/-- A whole registration. -/
def attempt (r : Registry μ) (b : Bid μ) : Attempt μ := r.register b.typeName b.candidates

/-- What a bid holds between its steps. -/
structure Suited (b : Bid μ) (name : String) (table : List (String × μ)) : Prop where
  named : name = serviceName b.typeName
  exported : isExported name = true
  listed : table = Candidate.table b.candidates
  filled : table ≠ []

theorem firstStep_cases (r : Registry μ) (b : Bid μ) :
    (∃ name table, r.firstStep b = .checked name table ∧ Suited b name table) ∨
      (r.attempt b).registry = r ∧ r.firstStep b = .ended (r.attempt b).result := by
  rcases r.check_cases b.typeName b.candidates with ⟨e, refused, -⟩ | ⟨passed, fresh⟩
  · right
    simp [attempt, register, firstStep, refused]
  · cases known : Candidate.table b.candidates with
    | nil =>
        right
        by_cases exclusive : Candidate.anyExclusive b.candidates = true
        · simp [attempt, register, firstStep, passed, known, exclusive]
        · simp [attempt, register, firstStep, passed, known, exclusive]
    | cons pair table =>
        left
        refine ⟨serviceName b.typeName, pair :: table, ?_, rfl, fresh.2.1, known.symm, by simp⟩
        simp [firstStep, passed, known]

theorem secondStep_eq {b : Bid μ} {name : String} {table : List (String × μ)}
    (suited : Suited b name table) (r : Registry μ) :
    r.secondStep b name table = ((r.attempt b).registry, (r.attempt b).result) := by
  obtain ⟨rfl, exported, rfl, filled⟩ := suited
  have named : (serviceName b.typeName).isEmpty = false := by
    simpa using ne_empty_of_isExported exported
  obtain ⟨pair, rest, known⟩ := List.exists_cons_of_ne_nil filled
  cases served : r.serves (serviceName b.typeName) with
  | true =>
      simp [secondStep, commit_of_taken served, attempt, register_of_taken exported served]
  | false =>
      have passed : r.check b.typeName = .ok (serviceName b.typeName) := by
        simp [check, named, exported, served]
      obtain ⟨warnings, committed⟩ := commit_of_not_serves served b.typeName (pair :: rest)
      simp [secondStep, attempt, register, passed, known, committed]

/-- What a step comes to: the bid goes on to its second step, or it ends and has done by then what a whole
registration does at that moment, or it had ended before. -/
inductive Moved (r : Registry μ) (b : Bid μ) : Stage μ → Registry μ × Stage μ → Prop
  | passes {name : String} {table : List (String × μ)} (suited : Suited b name table) :
      Moved r b .waiting (r, .checked name table)
  | ends {stage : Stage μ} (underway : ∀ result, stage ≠ .ended result) :
      Moved r b stage ((r.attempt b).registry, .ended (r.attempt b).result)
  | stays (result : Except RegistrationError Unit) : Moved r b (.ended result) (r, .ended result)

theorem moved_move (r : Registry μ) {b : Bid μ} {stage : Stage μ}
    (suited : ∀ name table, stage = .checked name table → Suited b name table) :
    Moved r b stage (r.move b stage) := by
  cases stage with
  | waiting =>
      rcases r.firstStep_cases b with ⟨name, table, checked, suited⟩ | ⟨same, ended⟩
      · rw [move, checked]
        exact .passes suited
      · have moved : Moved r b .waiting ((r.attempt b).registry, .ended (r.attempt b).result) :=
          .ends (by simp)
        rwa [same, ← ended] at moved
  | checked name table =>
      simp only [move, secondStep_eq (suited name table rfl)]
      exact .ends (by simp)
  | ended result => exact .stays result

/-! ## Contests -/

/-- Bids that are under way at once, each with its stage. -/
structure Contest (μ : Type) where
  registry : Registry μ
  parties : List (Bid μ × Stage μ)

namespace Contest

def start (r : Registry μ) (bids : List (Bid μ)) : Contest μ := ⟨r, bids.map fun b => (b, .waiting)⟩

/-- One step of a party. -/
def step (c : Contest μ) (i : Nat) : Contest μ :=
  match c.parties[i]? with
  | none => c
  | some (b, stage) =>
      let (registry, next) := c.registry.move b stage
      ⟨registry, c.parties.set i (b, next)⟩

def run (c : Contest μ) (steps : List Nat) : Contest μ := steps.foldl step c

/-- The result of a party that has ended. -/
def result? (c : Contest μ) (i : Nat) : Option (Except RegistrationError Unit) :=
  match c.parties[i]? with
  | some (_, .ended result) => some result
  | _ => none

/-- The parties in the order in which they end. -/
def order (c : Contest μ) : List Nat → List Nat
  | [] => []
  | i :: steps =>
      let later := (c.step i).order steps
      if (c.result? i).isNone && ((c.step i).result? i).isSome then i :: later else later

end Contest

/-- Whole registrations, one after another, with their results. -/
def registerAll (r : Registry μ) : List (Bid μ) → Registry μ × List (Except RegistrationError Unit)
  | [] => (r, [])
  | b :: bids =>
      let (later, results) := (r.attempt b).registry.registerAll bids
      (later, (r.attempt b).result :: results)

theorem registerAll_concat (r : Registry μ) (bids : List (Bid μ)) (b : Bid μ) :
    r.registerAll (bids ++ [b]) =
      (((r.registerAll bids).1.attempt b).registry,
        (r.registerAll bids).2 ++ [((r.registerAll bids).1.attempt b).result]) := by
  induction bids generalizing r with
  | nil => rfl
  | cons first bids ih => simp [registerAll, ih]

/-! ## Outcomes -/

/-- The bid is for a name, and has a method that can be called. -/
def Vies (b : Bid μ) (name : String) : Prop :=
  serviceName b.typeName = name ∧ ∃ called, Candidate.Offered b.candidates called

section

variable (bids : List (Bid μ)) (result? : Nat → Option (Except RegistrationError Unit))

/-- A bid for the name is accepted. -/
def Wins (i : Nat) (name : String) : Prop :=
  ∃ b, bids[i]? = some b ∧ result? i = some (.ok ()) ∧ serviceName b.typeName = name

/-- The bid of a party that wins. -/
def winner? (i : Nat) : Option (Bid μ) :=
  match result? i with
  | some (.ok ()) => bids[i]?
  | _ => none

end

/-- The registry with the service that a bid brings in. -/
def join (r : Registry μ) (b : Bid μ) : Registry μ :=
  r.withService (serviceName b.typeName) b.typeName (Candidate.table b.candidates)

/-- All results so far are those of whole registrations in the order in which the parties ended. The registry
has what the winners bring in, and nothing else. -/
structure Explained (r : Registry μ) (bids : List (Bid μ)) (registry : Registry μ)
    (result? : Nat → Option (Except RegistrationError Unit)) (order : List Nat) : Prop where
  nodup : order.Nodup
  ended : ∀ i, (result? i).isSome = true ↔ i ∈ order
  sequence : r.registerAll (order.filterMap (bids[·]?)) = (registry, order.filterMap result?)
  joined : registry = (order.filterMap (winner? bids result?)).foldl join r
  fair : ∀ i name, Wins bids result? i name → isExported name = true ∧ r.serves name = false
  served : ∀ name, registry.serves name = true ↔
    r.serves name = true ∨ ∃ i, Wins bids result? i name
  single : ∀ i j name, Wins bids result? i name → Wins bids result? j name → i = j
  lost : ∀ i b e name, bids[i]? = some b → result? i = some (.error e) → Vies b name →
    isExported name = true → e = .duplicate name ∧ registry.serves name = true

theorem explained_start (r : Registry μ) (bids : List (Bid μ)) :
    Explained r bids r (fun _ => none) [] where
  nodup := .nil
  ended := by simp
  sequence := rfl
  joined := rfl
  fair := by simp [Wins]
  served := by simp [Wins]
  single := by simp [Wins]
  lost := by simp

theorem filterMap_concat {α : Type} {f g : Nat → Option α} {order : List Nat} {i : Nat}
    (same : ∀ j ∈ order, g j = f j) :
    (order ++ [i]).filterMap g = order.filterMap f ++ (g i).toList := by
  rw [List.filterMap_append, List.filterMap_congr same]
  cases h : g i <;> simp [h]

theorem serves_join (r : Registry μ) (b : Bid μ) (name : String) :
    (r.join b).serves name = true ↔ r.serves name = true ∨ serviceName b.typeName = name := by
  simp [serves_iff, join, withService, or_and_right, exists_or]

/-- A bid for a name that may be registered fails only if the name is taken. -/
theorem Refuses.of_vies {r : Registry μ} {b : Bid μ} {e : RegistrationError}
    (refuses : r.Refuses b.typeName b.candidates e) {name : String} (vies : Vies b name)
    (exported : isExported name = true) : e = .duplicate name ∧ r.serves name = true := by
  obtain ⟨rfl, called, c, mem, method, offers⟩ := vies
  have objection := refuses.1
  cases e with
  | emptyName refused => exact absurd objection.2 (ne_empty_of_isExported exported)
  | notExported name =>
      obtain ⟨rfl, hidden⟩ := objection
      rw [exported] at hidden
      cases hidden
  | duplicate name =>
      obtain ⟨rfl, taken⟩ := objection
      exact ⟨rfl, (r.serves_iff _).mpr taken⟩
  | exclusiveReceiver name => exact absurd offers (objection.2.1 c mem called method)
  | noSuitableMethods name => exact absurd offers (objection.2 c mem called method)

section

variable {bids : List (Bid μ)} {result? : Nat → Option (Except RegistrationError Unit)} {i : Nat}

theorem wins_update_error (underway : result? i = none) (e : RegistrationError) (j : Nat)
    (name : String) :
    Wins bids (Function.update result? i (some (.error e))) j name ↔ Wins bids result? j name := by
  by_cases same : j = i
  · subst same
    simp [Wins, underway]
  · simp [Wins, same]

theorem wins_update_ok (underway : result? i = none) {b : Bid μ} (known : bids[i]? = some b) (j : Nat)
    (name : String) :
    Wins bids (Function.update result? i (some (.ok ()))) j name ↔
      Wins bids result? j name ∨ j = i ∧ serviceName b.typeName = name := by
  by_cases same : j = i
  · subst same
    simp [Wins, underway, known]
  · simp [Wins, same]

/-! ### One party more has ended -/

variable {r registry : Registry μ} {order : List Nat}

theorem Explained.not_mem (h : Explained r bids registry result? order) (underway : result? i = none) :
    i ∉ order := by
  rw [← h.ended, underway]
  simp

theorem Explained.ne_of_mem (h : Explained r bids registry result? order) (underway : result? i = none)
    {j : Nat} (mem : j ∈ order) : j ≠ i := by
  rintro rfl
  exact h.not_mem underway mem

theorem Explained.nodup_concat (h : Explained r bids registry result? order)
    (underway : result? i = none) : (order ++ [i]).Nodup := by
  rw [List.nodup_append]
  refine ⟨h.nodup, by simp, ?_⟩
  intro j mem k last
  rw [List.mem_singleton.mp last]
  exact h.ne_of_mem underway mem

theorem Explained.ended_concat (h : Explained r bids registry result? order)
    (result : Except RegistrationError Unit) (j : Nat) :
    (Function.update result? i (some result) j).isSome = true ↔ j ∈ order ++ [i] := by
  by_cases same : j = i
  · simp [same]
  · simp [same, h.ended]

theorem Explained.winners_concat (h : Explained r bids registry result? order)
    (underway : result? i = none) (result : Except RegistrationError Unit) :
    (order ++ [i]).filterMap (winner? bids (Function.update result? i (some result))) =
      order.filterMap (winner? bids result?) ++
        (winner? bids (Function.update result? i (some result)) i).toList := by
  apply filterMap_concat
  intro j mem
  simp [winner?, Function.update_of_ne (h.ne_of_mem underway mem)]

theorem Explained.sequence_concat (h : Explained r bids registry result? order)
    (underway : result? i = none) {b : Bid μ} (known : bids[i]? = some b) :
    r.registerAll ((order ++ [i]).filterMap (bids[·]?)) =
      ((registry.attempt b).registry,
        (order ++ [i]).filterMap (Function.update result? i (some (registry.attempt b).result))) := by
  rw [filterMap_concat (fun _ _ => rfl), known, Option.toList_some, registerAll_concat, h.sequence,
    filterMap_concat fun j mem => Function.update_of_ne (h.ne_of_mem underway mem) ..]
  simp

/-- Nothing changes for the others if a party is refused. -/
theorem Explained.refused (h : Explained r bids registry result? order) (underway : result? i = none)
    {b : Bid μ} (known : bids[i]? = some b) {e : RegistrationError}
    (refused : (registry.attempt b).result = .error e) (same : (registry.attempt b).registry = registry)
    (refuses : registry.Refuses b.typeName b.candidates e) :
    Explained r bids registry (Function.update result? i (some (.error e))) (order ++ [i]) := by
  have sequence := h.sequence_concat underway known
  rw [refused, same] at sequence
  refine ⟨h.nodup_concat underway, h.ended_concat _, sequence, ?_, ?_, ?_, ?_, ?_⟩
  · rw [h.winners_concat underway]
    simpa [winner?] using h.joined
  · simpa only [wins_update_error underway] using h.fair
  · simpa only [wins_update_error underway] using h.served
  · simpa only [wins_update_error underway] using h.single
  · intro j other e' name found failed vies exported
    by_cases own : j = i
    · subst own
      rw [known] at found
      cases found
      rw [Function.update_self] at failed
      cases failed
      exact refuses.of_vies vies exported
    · rw [Function.update_of_ne own] at failed
      exact h.lost j other e' name found failed vies exported

/-- A party that is accepted found its name free, so nobody had won it. -/
theorem Explained.accepted (h : Explained r bids registry result? order) (underway : result? i = none)
    {b : Bid μ} (known : bids[i]? = some b) (accepted : (registry.attempt b).result = .ok ())
    (brought : (registry.attempt b).registry = registry.join b)
    (exported : isExported (serviceName b.typeName) = true)
    (free : registry.serves (serviceName b.typeName) = false) :
    Explained r bids (registry.join b) (Function.update result? i (some (.ok ()))) (order ++ [i]) := by
  have unserved : r.serves (serviceName b.typeName) = false ∧
      ∀ j, ¬ Wins bids result? j (serviceName b.typeName) := by
    have none := mt (h.served (serviceName b.typeName)).mpr (by simp [free])
    simpa using none
  have sequence := h.sequence_concat underway known
  rw [accepted, brought] at sequence
  refine ⟨h.nodup_concat underway, h.ended_concat _, sequence, ?_, ?_, ?_, ?_, ?_⟩
  · rw [h.winners_concat underway]
    simp [winner?, known, ← h.joined]
  · simp only [wins_update_ok underway known]
    rintro j name (wins | ⟨rfl, rfl⟩)
    · exact h.fair j name wins
    · exact ⟨exported, unserved.1⟩
  · intro name
    simp only [wins_update_ok underway known, serves_join, h.served, exists_or, or_assoc]
    simp
  · simp only [wins_update_ok underway known]
    rintro j k name (wins | ⟨rfl, rfl⟩) (wins' | ⟨rfl, same⟩)
    · exact h.single j k name wins wins'
    · exact absurd (same ▸ wins) (unserved.2 j)
    · exact absurd wins' (unserved.2 k)
    · rfl
  · intro j other e name found failed vies exported
    by_cases own : j = i
    · subst own
      rw [Function.update_self] at failed
      cases failed
    · rw [Function.update_of_ne own] at failed
      obtain ⟨taken, served⟩ := h.lost j other e name found failed vies exported
      exact ⟨taken, (serves_join ..).mpr (.inl served)⟩

/-- A party that ends with the result of a whole registration keeps everything explained. -/
theorem Explained.ends (h : Explained r bids registry result? order) {b : Bid μ}
    (known : bids[i]? = some b) (underway : result? i = none) :
    Explained r bids (registry.attempt b).registry
      (Function.update result? i (some (registry.attempt b).result)) (order ++ [i]) := by
  rcases registry.register_cases b.typeName b.candidates with
    ⟨e, refused, same, refuses⟩ | ⟨accepted, unopposed, brought⟩
  · have refused : (registry.attempt b).result = .error e := refused
    have same : (registry.attempt b).registry = registry := same
    rw [refused, same]
    exact h.refused underway known refused same refuses
  · have accepted : (registry.attempt b).result = .ok () := accepted
    have brought : (registry.attempt b).registry = registry.join b := brought
    have exported : isExported (serviceName b.typeName) = true := by
      have shown := unopposed (.notExported (serviceName b.typeName))
      simpa [Objection] using shown
    rw [accepted, brought]
    exact h.accepted underway known accepted brought exported (not_serves_of_unopposed unopposed)

end

/-! ## Runs -/

namespace Contest

theorem step_of_none {c : Contest μ} {i : Nat} (absent : c.parties[i]? = none) : c.step i = c := by
  simp [step, absent]

theorem step_of_some {c : Contest μ} {i : Nat} {b : Bid μ} {stage : Stage μ}
    (known : c.parties[i]? = some (b, stage)) :
    c.step i = ⟨(c.registry.move b stage).1, c.parties.set i (b, (c.registry.move b stage).2)⟩ := by
  simp [step, known]

theorem result?_eq_some_iff {c : Contest μ} {i : Nat} {result : Except RegistrationError Unit} :
    c.result? i = some result ↔ ∃ b, c.parties[i]? = some (b, .ended result) := by
  unfold result?
  constructor
  · intro h
    split at h
    · next b result known =>
        cases h
        exact ⟨b, known⟩
    · cases h
  · rintro ⟨b, known⟩
    rw [known]

theorem result?_eq_none {c : Contest μ} {i : Nat} {b : Bid μ} {stage : Stage μ}
    (known : c.parties[i]? = some (b, stage)) (underway : ∀ result, stage ≠ .ended result) :
    c.result? i = none := by
  rw [Option.eq_none_iff_forall_ne_some]
  intro result ended
  obtain ⟨_, same⟩ := result?_eq_some_iff.mp ended
  rw [known] at same
  cases same
  exact underway result rfl

theorem result?_set_checked {c : Contest μ} {i : Nat} {b : Bid μ}
    (known : c.parties[i]? = some (b, .waiting)) (registry : Registry μ) (name : String)
    (table : List (String × μ)) :
    result? ⟨registry, c.parties.set i (b, .checked name table)⟩ = c.result? := by
  funext j
  by_cases same : j = i
  · subst same
    obtain ⟨inside, -⟩ := List.getElem?_eq_some_iff.mp known
    rw [result?_eq_none known (by simp), result?_eq_none (List.getElem?_set_self inside) (by simp)]
  · simp [result?, List.getElem?_set_ne (Ne.symm same)]

theorem result?_set_ended {c : Contest μ} {i : Nat} {b : Bid μ} {stage : Stage μ}
    (known : c.parties[i]? = some (b, stage)) (registry : Registry μ)
    (result : Except RegistrationError Unit) :
    result? ⟨registry, c.parties.set i (b, .ended result)⟩ =
      Function.update c.result? i (some result) := by
  funext j
  by_cases same : j = i
  · subst same
    obtain ⟨inside, -⟩ := List.getElem?_eq_some_iff.mp known
    simp [result?, inside]
  · simp [result?, List.getElem?_set_ne (Ne.symm same), same]

theorem run_concat (c : Contest μ) (steps : List Nat) (i : Nat) :
    c.run (steps ++ [i]) = (c.run steps).step i := by
  simp [run]

theorem order_append (c : Contest μ) (first later : List Nat) :
    c.order (first ++ later) = c.order first ++ (c.run first).order later := by
  induction first generalizing c with
  | nil => rfl
  | cons i first ih =>
      have later := ih (c.step i)
      simp only [List.cons_append, order, later]
      split
      · rfl
      · rfl

/-- Which steps the parties of a contest have taken. -/
structure Paced (bids : List (Bid μ)) (steps : List Nat) (c : Contest μ) : Prop where
  bids : c.parties.map (·.1) = bids
  waiting : ∀ i b, c.parties[i]? = some (b, .waiting) → i ∉ steps
  checked : ∀ i b name table, c.parties[i]? = some (b, .checked name table) →
    Suited b name table ∧ steps.count i = 1
  ended : ∀ i result, c.result? i = some result → i ∈ steps

theorem paced_start (r : Registry μ) (bids : List (Bid μ)) : Paced bids [] (start r bids) where
  bids := by simp [start, Function.comp_def]
  waiting := by simp
  checked := by simp [start]
  ended := by
    intro i result ended
    obtain ⟨b, known⟩ := result?_eq_some_iff.mp ended
    simp [start] at known

theorem Paced.known {bids : List (Bid μ)} {steps : List Nat} {c : Contest μ} (h : Paced bids steps c)
    {i : Nat} {b : Bid μ} {stage : Stage μ} (found : c.parties[i]? = some (b, stage)) :
    bids[i]? = some b := by
  rw [← h.bids, List.getElem?_map, found]
  rfl

/-- The other parties do not mind a step. -/
theorem Paced.set {bids : List (Bid μ)} {steps : List Nat} {c : Contest μ} (h : Paced bids steps c)
    {i : Nat} {b : Bid μ} {stage next : Stage μ} (found : c.parties[i]? = some (b, stage))
    (begun : next ≠ .waiting)
    (suited : ∀ name table, next = .checked name table → Suited b name table ∧ i ∉ steps)
    (registry : Registry μ) : Paced bids (steps ++ [i]) ⟨registry, c.parties.set i (b, next)⟩ := by
  obtain ⟨inside, own⟩ := List.getElem?_eq_some_iff.mp found
  refine ⟨?_, ?_, ?_, ?_⟩
  · rw [← h.bids]
    apply List.ext_getElem?
    intro j
    by_cases same : j = i
    · subst same
      simp [inside, own]
    · simp [List.getElem?_set_ne (Ne.symm same)]
  · intro j other known
    by_cases same : j = i
    · subst same
      simp [inside, begun] at known
    · rw [List.getElem?_set_ne (Ne.symm same)] at known
      simpa [same] using h.waiting j other known
  · intro j other name table known
    by_cases same : j = i
    · subst same
      simp only [List.getElem?_set_self inside, Option.some.injEq, Prod.mk.injEq] at known
      obtain ⟨rfl, checked⟩ := known
      obtain ⟨suited, fresh⟩ := suited name table checked
      exact ⟨suited, by simp [List.count_append, List.count_eq_zero.mpr fresh]⟩
    · rw [List.getElem?_set_ne (Ne.symm same)] at known
      obtain ⟨suited, once⟩ := h.checked j other name table known
      refine ⟨suited, ?_⟩
      rw [List.count_append, once, List.count_eq_zero.mpr (by simpa using same)]
  · intro j result ended
    by_cases same : j = i
    · simp [same]
    · obtain ⟨other, known⟩ := result?_eq_some_iff.mp ended
      rw [List.getElem?_set_ne (Ne.symm same)] at known
      simp [h.ended j result (result?_eq_some_iff.mpr ⟨other, known⟩)]

theorem Paced.of_none {bids : List (Bid μ)} {steps : List Nat} {c : Contest μ} (h : Paced bids steps c)
    {i : Nat} (absent : c.parties[i]? = none) : Paced bids (steps ++ [i]) c := by
  have apart {j : Nat} {p : Bid μ × Stage μ} (known : c.parties[j]? = some p) : j ≠ i := by
    rintro rfl
    rw [absent] at known
    cases known
  refine ⟨h.bids, ?_, ?_, ?_⟩
  · intro j b known
    simp [h.waiting j b known, apart known]
  · intro j b name table known
    obtain ⟨suited, once⟩ := h.checked j b name table known
    refine ⟨suited, ?_⟩
    rw [List.count_append, once, List.count_eq_zero.mpr (by simpa using apart known)]
  · intro j result ended
    simp [h.ended j result ended]

/-- What holds all along: the parties take their steps one after the other, and everything is explained. -/
theorem run_explained (r : Registry μ) (bids : List (Bid μ)) (steps : List Nat) :
    Paced bids steps ((start r bids).run steps) ∧
      Explained r bids ((start r bids).run steps).registry ((start r bids).run steps).result?
        ((start r bids).order steps) := by
  induction steps using List.reverseRecOn with
  | nil =>
      have none : (start r bids).result? = fun _ => none := by
        funext i
        cases found : (start r bids).result? i with
        | none => rfl
        | some result => cases (paced_start r bids).ended i result found
      refine ⟨paced_start r bids, ?_⟩
      rw [run, List.foldl_nil, none]
      exact explained_start r bids
  | append_singleton steps i ih =>
      rw [run_concat, order_append]
      generalize (start r bids).run steps = c at ih ⊢
      generalize (start r bids).order steps = order at ih ⊢
      obtain ⟨paced, explained⟩ := ih
      cases found : c.parties[i]? with
      | none =>
          have idle : c.order [i] = [] := by simp [Contest.order, step_of_none found]
          rw [step_of_none found, idle, List.append_nil]
          exact ⟨paced.of_none found, explained⟩
      | some party =>
          obtain ⟨b, stage⟩ := party
          have suited : ∀ name table, stage = .checked name table → Suited b name table := by
            rintro name table rfl
            exact (paced.checked i b name table found).1
          have moved := c.registry.moved_move suited
          have stepped := step_of_some found
          generalize c.registry.move b stage = result at moved stepped
          simp only [Contest.order, stepped]
          cases moved with
          | passes suits =>
              rw [result?_set_checked found]
              have idle : ((c.result? i).isNone && (c.result? i).isSome) = false := by
                cases c.result? i <;> rfl
              rw [idle]
              refine ⟨paced.set found (by simp) ?_ _, by simpa using explained⟩
              intro name table same
              cases same
              exact ⟨suits, paced.waiting i b found⟩
          | ends underway =>
              have unended := result?_eq_none found underway
              rw [result?_set_ended found]
              refine ⟨paced.set found (by simp) (by simp) _, ?_⟩
              simpa [unended] using explained.ends (paced.known found) unended
          | stays result =>
              have ended : c.result? i = some result := result?_eq_some_iff.mpr ⟨b, found⟩
              rw [result?_set_ended found]
              refine ⟨paced.set found (by simp) (by simp) _, ?_⟩
              have same : Function.update c.result? i (some result) = c.result? := by
                rw [← ended, Function.update_eq_self]
              simpa [same, ended] using explained

/-- Who has taken both steps has ended. -/
theorem Paced.ends {bids : List (Bid μ)} {steps : List Nat} {c : Contest μ} (h : Paced bids steps c)
    {i : Nat} (inside : i < bids.length) (both : 2 ≤ steps.count i) : (c.result? i).isSome = true := by
  have length : c.parties.length = bids.length := by
    rw [← h.bids, List.length_map]
  obtain ⟨⟨b, stage⟩, found⟩ : ∃ p, c.parties[i]? = some p :=
    ⟨_, List.getElem?_eq_getElem (length ▸ inside)⟩
  cases stage with
  | waiting =>
      rw [List.count_eq_zero.mpr (h.waiting i b found)] at both
      omega
  | checked name table =>
      rw [(h.checked i b name table found).2] at both
      omega
  | ended result => simp [result?, found]

/-- Who ends before another begins stands before it in the order. -/
theorem order_precedes (r : Registry μ) (bids : List (Bid μ)) {first later : List Nat} {i j : Nat}
    (before : (((start r bids).run first).result? i).isSome = true) (unbegun : j ∉ first)
    (listed : j ∈ (start r bids).order (first ++ later)) :
    ∃ head tail, (start r bids).order (first ++ later) = head ++ tail ∧ i ∈ head ∧ j ∈ tail := by
  obtain ⟨paced, explained⟩ := run_explained r bids first
  rw [order_append] at listed ⊢
  refine ⟨_, _, rfl, (explained.ended i).mp before, ?_⟩
  apply (List.mem_append.mp listed).resolve_left
  intro early
  obtain ⟨result, known⟩ := Option.isSome_iff_exists.mp ((explained.ended j).mpr early)
  exact unbegun (paced.ended j result known)

end Contest

/-- **Registrations that are under way at once do what they do one after another.** Whatever the order of
their steps, once each has taken both there is an order of the registrations, in which one that ended before
another began stands before it, such that whole registrations in this order have the same results and leave
the same registry. The registry has the services and codes of those that were accepted, and nothing of the
others. If several want a name that may be registered and is free, and have methods that can be called, one
of them is accepted and all others are refused because the name is taken. -/
theorem contest_in_order (r : Registry μ) (bids : List (Bid μ)) (steps : List Nat)
    (complete : ∀ i < bids.length, 2 ≤ steps.count i) :
    let start := Contest.start r bids
    let last := start.run steps
    let order := start.order steps
    order.Perm (List.range bids.length) ∧
      (∀ i < bids.length, (last.result? i).isSome = true) ∧
      r.registerAll (order.filterMap (bids[·]?)) = (last.registry, order.filterMap last.result?) ∧
      (∀ first later i j, steps = first ++ later → ((start.run first).result? i).isSome = true →
        j < bids.length → j ∉ first →
        ∃ before after, order = before ++ after ∧ i ∈ before ∧ j ∈ after) ∧
      last.registry = (order.filterMap (winner? bids last.result?)).foldl join r ∧
      (∀ i name, Wins bids last.result? i name → isExported name = true ∧ r.serves name = false) ∧
      ∀ name, isExported name = true → r.serves name = false → (∃ b ∈ bids, Vies b name) →
        ∃ i, Wins bids last.result? i name ∧ (∀ j, Wins bids last.result? j name → j = i) ∧
          ∀ j b, bids[j]? = some b → Vies b name → j ≠ i →
            last.result? j = some (.error (.duplicate name)) := by
  intro start last order
  obtain ⟨paced, explained⟩ := Contest.run_explained r bids steps
  have ended : ∀ i < bids.length, (last.result? i).isSome = true := by
    intro i inside
    exact paced.ends inside (complete i inside)
  have listed (i : Nat) : i ∈ order ↔ i < bids.length := by
    rw [← explained.ended]
    constructor
    · intro some
      obtain ⟨result, known⟩ := Option.isSome_iff_exists.mp some
      obtain ⟨b, found⟩ := Contest.result?_eq_some_iff.mp known
      exact (List.getElem?_eq_some_iff.mp (paced.known found)).1
    · exact ended i
  refine ⟨?_, ended, explained.sequence, ?_, explained.joined, explained.fair, ?_⟩
  · apply (List.perm_ext_iff_of_nodup explained.nodup List.nodup_range).mpr
    simpa using listed
  · rintro first later i j rfl before inside unbegun
    exact Contest.order_precedes r bids before unbegun ((listed j).mpr inside)
  · rintro name exported free ⟨b, mem, vies⟩
    obtain ⟨k, found⟩ := List.mem_iff_getElem?.mp mem
    obtain ⟨result, known⟩ := Option.isSome_iff_exists.mp
      (ended k (List.getElem?_eq_some_iff.mp found).1)
    obtain ⟨i, wins⟩ : ∃ i, Wins bids last.result? i name := by
      cases result with
      | ok => exact ⟨k, b, found, known, vies.1⟩
      | error e =>
          have taken := (explained.lost k b e name found known vies exported).2
          rcases (explained.served name).mp taken with before | wins
          · rw [free] at before
            cases before
          · exact wins
    refine ⟨i, wins, fun j wins' => explained.single j i name wins' wins, ?_⟩
    intro j other found vies apart
    obtain ⟨result, known⟩ := Option.isSome_iff_exists.mp
      (ended j (List.getElem?_eq_some_iff.mp found).1)
    cases result with
    | ok => exact absurd (explained.single j i name ⟨other, found, known, vies.1⟩ wins) apart
    | error e => rw [known, (explained.lost j other e name found known vies exported).1]

/-- Two types of one name, both of which find it free at their first step. The one that commits first is
accepted, though it began later. -/
theorem contest_in_order_of_rooms :
    let bids : List (Bid Unit) :=
      [⟨"hall::Room", [⟨"Join", .handler ()⟩, ⟨"Leave", .handler ()⟩]⟩,
        ⟨"inn::Room<u8>", [⟨"Join", .exclusive⟩, ⟨"Enter", .handler ()⟩]⟩]
    let start := Contest.start (empty "chat") bids
    let steps := [0, 1, 1, 0]
    (∀ i < bids.length, 2 ≤ steps.count i) ∧
      (start.order steps).Perm [0, 1] ∧
      ∃ i, Wins bids (start.run steps).result? i "Room" ∧
        ∀ j b, bids[j]? = some b → Vies b "Room" → j ≠ i →
          (start.run steps).result? j = some (.error (.duplicate "Room")) := by
  intro bids start steps
  have complete : ∀ i < bids.length, 2 ≤ steps.count i := by decide
  obtain ⟨perm, -, -, -, -, -, one⟩ := contest_in_order (empty "chat") bids steps complete
  have vies : ∃ b ∈ bids, Vies b "Room" := by
    refine ⟨_, List.mem_cons_self, by decide +kernel, "Join", ⟨"Join", .handler ()⟩, by simp, (), ?_⟩
    exact ⟨rfl, by decide +kernel, rfl⟩
  obtain ⟨i, wins, -, others⟩ := one "Room" (by decide +kernel) rfl vies
  exact ⟨complete, perm, i, wins, others⟩

end Registry

end Connector
