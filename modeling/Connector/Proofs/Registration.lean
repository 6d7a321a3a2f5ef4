import Connector.Proofs.RouteCodes
import Connector.Proofs.Tables
import Connector.Registry

/-! What a registration does to the registry.

* `assignCodes_dictionary`: the methods of a service get their codes as if they were inserted in order;
* `register_grows`: the dictionary only grows, whether the registration succeeds or fails;
* `Objection`, `result_eq_error_iff`: a registration fails with the first objection to it;
* `register_of_taken`: a name that is taken is refused, and the candidates are not looked at;
* `register_cases`: it brings in a whole service, or changes nothing. -/

namespace Connector

namespace Registry

variable {μ : Type}

theorem assignCodes_dictionary (r : Registry μ) (service : String) (methods : List String) :
    (r.assignCodes service methods).1 = r.dictionary.insertAll (methods.map (r.methodRoute service)) := by
  rw [assignCodes, Prod.map_fst, id, RouteDictionary.insertAll, List.foldl_map]
  refine (List.foldl_hom Prod.fst ?_).symm
  rintro ⟨d, warnings⟩ method
  dsimp only
  split
  · next inserted => rw [inserted]
  · next refused => rw [refused]

theorem commit_grows {r later : Registry μ} {name typeName : String} {table : List (String × μ)}
    {warnings : List Log} (h : r.commit name typeName table = .ok (later, warnings)) :
    r.dictionary.Grows later.dictionary := by
  unfold commit at h
  split at h
  · cases h
  · cases h
    exact ⟨_, assignCodes_dictionary r name _⟩

theorem register_grows (r : Registry μ) (typeName : String) (candidates : List (Candidate μ)) :
    r.dictionary.Grows (r.register typeName candidates).registry.dictionary := by
  unfold register
  split
  · exact .refl _
  · split
    · exact .refl _
    · split
      · exact .refl _
      · next committed => exact commit_grows committed

end Registry

/-! ## Refusals -/

/-- The order in which the grounds for a refusal count. -/
def RegistrationError.turn : RegistrationError → Nat
  | emptyName _ => 0
  | notExported _ => 1
  | duplicate _ => 2
  | exclusiveReceiver _ => 3
  | noSuitableMethods _ => 4

namespace Registry

variable {μ : Type}

/-- What speaks against the registration of a type with its candidates. -/
def Objection (r : Registry μ) (typeName : String) (candidates : List (Candidate μ)) :
    RegistrationError → Prop
  | .emptyName refused => refused = typeName ∧ serviceName typeName = ""
  | .notExported name => name = serviceName typeName ∧ isExported name = false
  | .duplicate name => name = serviceName typeName ∧ ∃ s ∈ r.services, s.name = name
  | .exclusiveReceiver name =>
      name = serviceName typeName ∧ (∀ c ∈ candidates, ∀ called method, ¬ c.Offers called method) ∧
        ∃ c ∈ candidates, c.exported = true ∧ c.shape = .exclusive
  | .noSuitableMethods name =>
      name = serviceName typeName ∧ ∀ c ∈ candidates, ∀ called method, ¬ c.Offers called method

/-- The objection that is raised: none comes before it. -/
def Refuses (r : Registry μ) (typeName : String) (candidates : List (Candidate μ))
    (e : RegistrationError) : Prop :=
  r.Objection typeName candidates e ∧
    ∀ other, r.Objection typeName candidates other → e.turn ≤ other.turn

/-- The entries of a service whose methods were never called. -/
def uncalled (table : List (String × μ)) : List (Entry μ) := table.map fun p => ⟨p.1, p.2, 0⟩

/-- The registry with one service more. -/
def withService (r : Registry μ) (name typeName : String) (table : List (String × μ)) : Registry μ :=
  { r with
    services := r.services ++ [⟨name, typeName, uncalled table⟩]
    dictionary := r.dictionary.insertAll ((table.map (·.1)).map (r.methodRoute name)) }

theorem serves_iff (r : Registry μ) (name : String) :
    r.serves name = true ↔ ∃ s ∈ r.services, s.name = name := by
  simp [serves, service?]

theorem anyExclusive_iff (candidates : List (Candidate μ)) :
    Candidate.anyExclusive candidates = true ↔
      ∃ c ∈ candidates, c.exported = true ∧ c.shape = .exclusive := by
  have shape (c : Candidate μ) : c.shape.isExclusive = true ↔ c.shape = .exclusive := by
    cases c.shape <;> simp [Shape.isExclusive]
  simp [Candidate.anyExclusive, shape]

theorem commit_of_not_serves {r : Registry μ} {name : String} (free : r.serves name = false)
    (typeName : String) (table : List (String × μ)) :
    ∃ warnings, r.commit name typeName table = .ok (r.withService name typeName table, warnings) := by
  rw [commit, if_neg (by simp [free])]
  refine ⟨(r.assignCodes name (table.map (·.1))).2, ?_⟩
  rw [withService, ← assignCodes_dictionary]
  rfl

theorem ne_empty_of_isExported {name : String} (exported : isExported name = true) : name ≠ "" := by
  rintro rfl
  cases exported

/-- A name that is taken is refused, and the candidates are not looked at. -/
theorem register_of_taken {r : Registry μ} {typeName : String}
    (exported : isExported (serviceName typeName) = true)
    (taken : r.serves (serviceName typeName) = true) (candidates : List (Candidate μ)) :
    r.register typeName candidates = ⟨r, .error (.duplicate (serviceName typeName)), false, []⟩ := by
  have named : (serviceName typeName).isEmpty = false := by
    simpa using ne_empty_of_isExported exported
  have refused : r.check typeName = .error (.duplicate (serviceName typeName)) := by
    simp [check, named, exported, taken]
  rw [register, refused]

/-- Nor does it help to have been checked before. -/
theorem commit_of_taken {r : Registry μ} {name : String} (taken : r.serves name = true)
    (typeName : String) (table : List (String × μ)) :
    r.commit name typeName table = .error (.duplicate name) := by
  rw [commit, if_pos taken]

/-- What `check` lets pass. -/
def Fresh (r : Registry μ) (typeName : String) : Prop :=
  serviceName typeName ≠ "" ∧ isExported (serviceName typeName) = true ∧
    ∀ s ∈ r.services, s.name ≠ serviceName typeName

theorem Fresh.not_serves {r : Registry μ} {typeName : String} (h : r.Fresh typeName) :
    r.serves (serviceName typeName) = false := by
  rw [Bool.eq_false_iff, ne_eq, serves_iff]
  rintro ⟨s, mem, same⟩
  exact h.2.2 s mem same

theorem not_serves_of_unopposed {r : Registry μ} {typeName : String} {candidates : List (Candidate μ)}
    (unopposed : ∀ e, ¬ r.Objection typeName candidates e) : r.serves (serviceName typeName) = false := by
  rw [Bool.eq_false_iff, ne_eq, serves_iff]
  exact fun taken => unopposed (.duplicate _) ⟨rfl, taken⟩

/-- An objection to a fresh name is one to the candidates. -/
theorem Fresh.turn_of_objection {r : Registry μ} {typeName : String} {candidates : List (Candidate μ)}
    {e : RegistrationError} (h : r.Fresh typeName) (objection : r.Objection typeName candidates e) :
    3 ≤ e.turn ∧ ∀ c ∈ candidates, ∀ called method, ¬ c.Offers called method := by
  obtain ⟨named, exported, free⟩ := h
  cases e with
  | emptyName refused => exact absurd objection.2 named
  | notExported name =>
      obtain ⟨rfl, hidden⟩ := objection
      rw [exported] at hidden
      cases hidden
  | duplicate name =>
      obtain ⟨rfl, s, mem, same⟩ := objection
      exact absurd same (free s mem)
  | exclusiveReceiver name => exact ⟨Nat.le_refl 3, objection.2.1⟩
  | noSuitableMethods name => exact ⟨Nat.le_succ 3, objection.2⟩

theorem check_cases (r : Registry μ) (typeName : String) (candidates : List (Candidate μ)) :
    (∃ e, r.check typeName = .error e ∧ r.Refuses typeName candidates e) ∨
      r.check typeName = .ok (serviceName typeName) ∧ r.Fresh typeName := by
  simp only [check]
  by_cases empty : serviceName typeName = ""
  · refine .inl ⟨.emptyName typeName, if_pos (by simp [empty]), ⟨rfl, empty⟩, ?_⟩
    intro other _
    exact Nat.zero_le _
  rw [if_neg (by simpa using empty)]
  cases exported : isExported (serviceName typeName) with
  | false =>
      refine .inl ⟨.notExported (serviceName typeName), rfl, ⟨rfl, exported⟩, ?_⟩
      intro other objection
      cases other with
      | emptyName refused => exact absurd objection.2 empty
      | _ => simp [RegistrationError.turn]
  | true =>
      by_cases served : r.serves (serviceName typeName) = true
      · refine .inl ⟨.duplicate (serviceName typeName), by simp [served],
          ⟨rfl, (r.serves_iff _).mp served⟩, ?_⟩
        intro other objection
        cases other with
        | emptyName refused => exact absurd objection.2 empty
        | notExported name =>
            obtain ⟨rfl, hidden⟩ := objection
            rw [exported] at hidden
            cases hidden
        | _ => simp [RegistrationError.turn]
      · refine .inr ⟨by simp [served], empty, exported, ?_⟩
        intro s mem same
        exact served ((r.serves_iff _).mpr ⟨s, mem, same⟩)

/-- A registration is refused and changes nothing, or nothing speaks against it and the service comes in. -/
theorem register_cases (r : Registry μ) (typeName : String) (candidates : List (Candidate μ)) :
    let attempt := r.register typeName candidates
    (∃ e, attempt.result = .error e ∧ attempt.registry = r ∧ r.Refuses typeName candidates e) ∨
      attempt.result = .ok () ∧ (∀ e, ¬ r.Objection typeName candidates e) ∧
        attempt.registry = r.withService (serviceName typeName) typeName (Candidate.table candidates) := by
  intro attempt
  rcases r.check_cases typeName candidates with ⟨e, refused, first⟩ | ⟨passed, fresh⟩
  · have same : attempt = ⟨r, .error e, false, []⟩ := by simp only [attempt, register, refused]
    exact .inl ⟨e, by rw [same], by rw [same], first⟩
  · cases known : Candidate.table candidates with
    | nil =>
        have none := (Candidate.table_eq_nil_iff candidates).mp known
        left
        by_cases exclusive : Candidate.anyExclusive candidates = true
        · refine ⟨.exclusiveReceiver (serviceName typeName), ?_, ?_, ?_, ?_⟩
          · simp [attempt, register, passed, known, exclusive]
          · simp only [attempt, register, passed, known]
          · exact ⟨rfl, none, (anyExclusive_iff candidates).mp exclusive⟩
          · intro other objection
            exact (fresh.turn_of_objection objection).1
        · refine ⟨.noSuitableMethods (serviceName typeName), ?_, ?_, ⟨rfl, none⟩, ?_⟩
          · simp [attempt, register, passed, known, exclusive]
          · simp only [attempt, register, passed, known]
          · intro other objection
            cases other with
            | noSuitableMethods name => exact Nat.le_refl _
            | exclusiveReceiver name =>
                exact absurd ((anyExclusive_iff candidates).mpr objection.2.2) exclusive
            | _ => exact absurd (fresh.turn_of_objection objection).1 (by simp [RegistrationError.turn])
    | cons pair table =>
        right
        obtain ⟨warnings, committed⟩ := commit_of_not_serves fresh.not_serves typeName (pair :: table)
        refine ⟨?_, ?_, ?_⟩
        · simp only [attempt, register, passed, known, committed]
        · intro e objection
          have none := (fresh.turn_of_objection objection).2
          rw [← Candidate.table_eq_nil_iff, known] at none
          cases none
        · simp only [attempt, register, passed, known, committed]

theorem Objection.unique {r : Registry μ} {typeName : String} {candidates : List (Candidate μ)}
    {e other : RegistrationError} (h : r.Objection typeName candidates e)
    (h' : r.Objection typeName candidates other) (same : e.turn = other.turn) : e = other := by
  cases e <;> cases other
  case emptyName.emptyName | notExported.notExported | duplicate.duplicate |
      exclusiveReceiver.exclusiveReceiver | noSuitableMethods.noSuitableMethods =>
    rw [h.1, h'.1]
  all_goals cases same

/-- A registration fails with the first objection to it. -/
theorem result_eq_error_iff (r : Registry μ) (typeName : String) (candidates : List (Candidate μ))
    (e : RegistrationError) :
    (r.register typeName candidates).result = .error e ↔ r.Refuses typeName candidates e := by
  rcases r.register_cases typeName candidates with
    ⟨raised, refused, -, first⟩ | ⟨accepted, unopposed, -⟩
  · rw [refused]
    constructor
    · intro same
      cases same
      exact first
    · intro first'
      rw [first.1.unique first'.1 (Nat.le_antisymm (first.2 e first'.1) (first'.2 raised first.1))]
  · rw [accepted]
    constructor
    · intro same
      cases same
    · intro first
      exact absurd first.1 (unopposed e)

theorem register_of_ok {r : Registry μ} {typeName : String} {candidates : List (Candidate μ)}
    (accepted : (r.register typeName candidates).result = .ok ()) :
    (∀ e, ¬ r.Objection typeName candidates e) ∧
      (r.register typeName candidates).registry =
        r.withService (serviceName typeName) typeName (Candidate.table candidates) := by
  rcases r.register_cases typeName candidates with ⟨e, refused, -⟩ | ⟨-, joined⟩
  · rw [refused] at accepted
    cases accepted
  · exact joined

theorem register_of_not_ok {r : Registry μ} {typeName : String} {candidates : List (Candidate μ)}
    (refused : (r.register typeName candidates).result ≠ .ok ()) :
    (r.register typeName candidates).registry = r := by
  rcases r.register_cases typeName candidates with ⟨e, -, same, -⟩ | ⟨accepted, -⟩
  · exact same
  · exact absurd accepted refused

end Registry

end Connector
