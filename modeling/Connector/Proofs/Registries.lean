import Connector.Proofs.Registration
import Connector.Proofs.RouteText
import Connector.Switchboard

/-! The registry in use. Registrations and dispatches come in any order.

* `Registry.outline`: the names of services and methods, which is all that dispatches leave as it is;
* `Registry.Counted`, `Registry.Move`: what calls and registrations make of a registry;
* `Registry.Sound`, `Registry.Sound.move`: no name stands twice, and no service is empty;
* `Registry.find?_isSome_iff`, `Registry.mem_routes_iff`: what can be found and what is listed;
* `Switchboard.all_or_nothing`: a registration brings in a whole service, or changes nothing. -/

namespace Connector

namespace Registry

variable {μ : Type}

/-! ## Outlines -/

/-- The services by name, in the order of their registration, each with the names of its methods. -/
def outline (r : Registry μ) : List (String × List String) :=
  r.services.map fun s => (s.name, s.entries.map (·.name))

/-- The methods that can be called, each with its service. -/
def pairs (r : Registry μ) : List (String × String) :=
  r.outline.flatMap fun (service, methods) => methods.map (service, ·)

theorem mem_pairs_iff (r : Registry μ) (service method : String) :
    (service, method) ∈ r.pairs ↔
      ∃ s ∈ r.services, s.name = service ∧ ∃ e ∈ s.entries, e.name = method := by
  simp only [pairs, outline, List.mem_flatMap, List.mem_map]
  constructor
  · rintro ⟨-, ⟨s, mem, rfl⟩, name, listed, same⟩
    cases same
    obtain ⟨e, mem', rfl⟩ := List.mem_map.mp listed
    exact ⟨s, mem, rfl, e, mem', rfl⟩
  · rintro ⟨s, mem, rfl, e, mem', rfl⟩
    exact ⟨_, ⟨s, mem, rfl⟩, e.name, List.mem_map.mpr ⟨e, mem', rfl⟩, rfl⟩

theorem outline_count (r : Registry μ) (service method : String) :
    (r.count service method).outline = r.outline := by
  have bumped (e : Entry μ) :
      (if e.name = method then { e with calls := e.calls + 1 } else e).name = e.name := by
    split
    · rfl
    · rfl
  simp only [outline, count, List.map_map]
  refine List.map_congr_left fun s _ => ?_
  simp only [Function.comp_apply]
  split
  · simp only [List.map_map, Function.comp_def, bumped]
  · rfl

theorem names_uncalled (table : List (String × μ)) :
    (uncalled table).map (·.name) = table.map (·.1) := by
  rw [uncalled, List.map_map]
  rfl

theorem outline_withService (r : Registry μ) (name typeName : String) (table : List (String × μ)) :
    (r.withService name typeName table).outline = r.outline ++ [(name, table.map (·.1))] := by
  simp only [outline, withService, List.map_append, List.map_cons, List.map_nil, names_uncalled]

theorem mem_uncalled_iff (candidates : List (Candidate μ)) (e : Entry μ) :
    e ∈ uncalled (Candidate.table candidates) ↔
      e.calls = 0 ∧ Candidate.Binds candidates e.name e.method := by
  rw [← Candidate.mem_table_iff, uncalled, List.mem_map]
  constructor
  · rintro ⟨⟨name, run⟩, mem, rfl⟩
    exact ⟨rfl, mem⟩
  · obtain ⟨name, run, calls⟩ := e
    rintro ⟨rfl, mem⟩
    exact ⟨(name, run), mem, rfl⟩

/-! ## Soundness -/

/-- A service with some methods, all of them exported, each of them once and in order. -/
structure SoundLine (line : String × List String) : Prop where
  exported : isExported line.1 = true
  filled : line.2 ≠ []
  inOrder : line.2.Pairwise (· < ·)
  callable : ∀ method ∈ line.2, isExported method = true

structure Sound (r : Registry μ) : Prop where
  distinct : (r.outline.map (·.1)).Nodup
  lines : ∀ line ∈ r.outline, SoundLine line

theorem sound_empty (serverType : String) : (empty serverType : Registry μ).Sound :=
  ⟨.nil, fun line mem => by cases mem⟩

theorem Sound.of_outline {r later : Registry μ} (sound : r.Sound) (same : later.outline = r.outline) :
    later.Sound :=
  ⟨same ▸ sound.distinct, same ▸ sound.lines⟩

/-- What is known of a type and its candidates when nothing speaks against their registration. -/
theorem soundLine_of_unopposed {r : Registry μ} {typeName : String} {candidates : List (Candidate μ)}
    (unopposed : ∀ e, ¬ r.Objection typeName candidates e) :
    SoundLine (serviceName typeName, Candidate.names candidates) where
  exported := by
    have := unopposed (.notExported (serviceName typeName))
    simpa [Objection] using this
  filled := by
    intro none
    refine unopposed (.noSuitableMethods (serviceName typeName)) ⟨rfl, ?_⟩
    exact (Candidate.table_eq_nil_iff candidates).mp (List.map_eq_nil_iff.mp none)
  inOrder := Candidate.pairwise_names candidates
  callable := by
    intro method mem
    obtain ⟨c, -, run, rfl, exported, -⟩ := (Candidate.mem_names_iff candidates method).mp mem
    exact exported

theorem Sound.register {r : Registry μ} (sound : r.Sound) (typeName : String)
    (candidates : List (Candidate μ)) : (r.register typeName candidates).registry.Sound := by
  rcases r.register_cases typeName candidates with ⟨e, -, same, -⟩ | ⟨-, unopposed, joined⟩
  · rw [same]
    exact sound
  · have extended := r.outline_withService (serviceName typeName) typeName (Candidate.table candidates)
    rw [joined]
    constructor
    · rw [extended, List.map_append, List.nodup_append]
      refine ⟨sound.distinct, by simp, ?_⟩
      rintro name held other new rfl
      obtain rfl := List.mem_singleton.mp new
      obtain ⟨line, listed, named⟩ := List.mem_map.mp held
      obtain ⟨s, mem, rfl⟩ := List.mem_map.mp listed
      exact unopposed (.duplicate (serviceName typeName)) ⟨rfl, s, mem, named⟩
    · intro line mem
      rw [extended] at mem
      rcases List.mem_append.mp mem with old | new
      · exact sound.lines line old
      · obtain rfl := List.mem_singleton.mp new
        exact soundLine_of_unopposed unopposed

/-! ## Moves -/

/-- What a packet makes of a registry: at most one method is called. -/
inductive Counted (r : Registry μ) : Registry μ → Prop
  | none : r.Counted r
  | one (service method : String) : r.Counted (r.count service method)

theorem Counted.of_eq {r later : Registry μ} (same : later = r) : r.Counted later := same ▸ .none

theorem Counted.outline {r later : Registry μ} (counted : r.Counted later) :
    later.outline = r.outline := by
  cases counted with
  | none => rfl
  | one service method => exact r.outline_count service method

theorem Counted.serverType {r later : Registry μ} (counted : r.Counted later) :
    later.serverType = r.serverType := by
  cases counted with
  | none => rfl
  | one service method => rfl

theorem Counted.dictionary {r later : Registry μ} (counted : r.Counted later) :
    later.dictionary = r.dictionary := by
  cases counted with
  | none => rfl
  | one service method => rfl

/-- What registrations and calls make of a registry, one at a time. -/
inductive Move (r : Registry μ) : Registry μ → Prop
  | counted {later : Registry μ} (counted : r.Counted later) : r.Move later
  | register (typeName : String) (candidates : List (Candidate μ)) :
      r.Move (r.register typeName candidates).registry

theorem Sound.move {r later : Registry μ} (sound : r.Sound) (moved : r.Move later) : later.Sound := by
  cases moved with
  | counted counted => exact sound.of_outline counted.outline
  | register typeName candidates => exact sound.register typeName candidates

theorem Move.serverType {r later : Registry μ} (moved : r.Move later) :
    later.serverType = r.serverType := by
  cases moved with
  | counted counted => exact counted.serverType
  | register typeName candidates =>
      rcases r.register_cases typeName candidates with ⟨e, -, same, -⟩ | ⟨-, -, joined⟩
      · rw [same]
      · rw [joined, withService]

/-! ## Look-up -/

theorem Sound.service?_of_mem {r : Registry μ} (sound : r.Sound) {s : Service μ} (mem : s ∈ r.services) :
    r.service? s.name = some s := by
  have distinct : (r.services.map (·.name)).Nodup := by
    have := sound.distinct
    rwa [outline, List.map_map] at this
  exact find?_of_nodup_key distinct mem

/-- A method can be found just when it is among those that can be called. -/
theorem Sound.find?_isSome_iff {r : Registry μ} (sound : r.Sound) (service method : String) :
    (r.find? service method).isSome = true ↔ (service, method) ∈ r.pairs := by
  rw [mem_pairs_iff]
  constructor
  · intro found
    obtain ⟨e, found⟩ := Option.isSome_iff_exists.mp found
    obtain ⟨s, known, found⟩ := Option.bind_eq_some_iff.mp found
    refine ⟨s, List.mem_of_find?_eq_some known, by simpa using List.find?_some known, e,
      List.mem_of_find?_eq_some found, by simpa using List.find?_some found⟩
  · rintro ⟨s, mem, rfl, e, mem', rfl⟩
    rw [find?, sound.service?_of_mem mem, Option.bind_some, List.find?_isSome]
    exact ⟨e, mem', beq_self_eq_true _⟩

theorem mem_routes_iff (r : Registry μ) (text : String) :
    text ∈ r.routes ↔ ∃ pair ∈ r.pairs, pair.1 ++ "." ++ pair.2 = text := by
  rw [routes, List.mem_mergeSort, List.mem_flatMap]
  constructor
  · rintro ⟨s, mem, listed⟩
    obtain ⟨e, mem', rfl⟩ := List.mem_map.mp listed
    exact ⟨(s.name, e.name), (r.mem_pairs_iff ..).mpr ⟨s, mem, rfl, e, mem', rfl⟩, rfl⟩
  · rintro ⟨⟨service, method⟩, paired, rfl⟩
    obtain ⟨s, mem, rfl, e, mem', rfl⟩ := (r.mem_pairs_iff ..).mp paired
    exact ⟨s, mem, List.mem_map.mpr ⟨e, mem', rfl⟩⟩

theorem plain_of_mem_pairs {r : Registry μ} (plain : ∀ line ∈ r.outline, '.' ∉ line.1.toList)
    {pair : String × String} (mem : pair ∈ r.pairs) : '.' ∉ pair.1.toList := by
  obtain ⟨line, listed, inside⟩ := List.mem_flatMap.mp mem
  obtain ⟨_, -, rfl⟩ := List.mem_map.mp inside
  exact plain line listed

/-- Where no service has a point in its name, a text is listed just for its own service and method. -/
theorem text_mem_routes_iff {r : Registry μ} (plain : ∀ line ∈ r.outline, '.' ∉ line.1.toList)
    {service : String} (pure : '.' ∉ service.toList) (method : String) :
    service ++ "." ++ method ∈ r.routes ↔ (service, method) ∈ r.pairs := by
  rw [mem_routes_iff]
  constructor
  · rintro ⟨⟨other, name⟩, paired, same⟩
    obtain ⟨rfl, rfl⟩ := Route.join_inj (plain_of_mem_pairs plain paired) pure same
    exact paired
  · intro paired
    exact ⟨_, paired, rfl⟩

end Registry

namespace Switchboard

variable {ε : Type}

/-! ## Uses -/

/-- What may be done with the registry of a switchboard. -/
inductive Use (ε : Type) where
  | register (typeName : String) (candidates : List (Candidate (Method ε)))
  | dispatch (s : Session) (route : Route) (body : Bytes)

/-- There is no point in the name of the service, if the use brings one in. -/
def Use.Plain : Use ε → Prop
  | .register typeName _ => '.' ∉ (serviceName typeName).toList
  | .dispatch .. => True

instance : (u : Use ε) → Decidable u.Plain
  | .register typeName _ => inferInstanceAs (Decidable ('.' ∉ (serviceName typeName).toList))
  | .dispatch .. => .isTrue trivial

def use (b : Switchboard ε) : Use ε → Switchboard ε
  | .register typeName candidates =>
      { b with registry := (b.registry.register typeName candidates).registry }
  | .dispatch s route body => (b.dispatch s route body).1.board

theorem registry_register (b : Switchboard ε) (typeName : String)
    (candidates : List (Candidate (Method ε))) :
    (b.use (.register typeName candidates)).registry =
      (b.registry.register typeName candidates).registry := by
  rw [use]

def useAll (b : Switchboard ε) (us : List (Use ε)) : Switchboard ε := us.foldl use b

/-- The type and the candidates of a registration that succeeds. -/
def addition? (b : Switchboard ε) : Use ε → Option (String × List (Candidate (Method ε)))
  | .register typeName candidates =>
      match (b.registry.register typeName candidates).result with
      | .ok () => some (typeName, candidates)
      | .error _ => none
  | .dispatch .. => none

/-- The registrations that succeed, in their order. -/
def entered (b : Switchboard ε) : List (Use ε) → List (String × List (Candidate (Method ε)))
  | [] => []
  | u :: us => (b.addition? u).toList ++ (b.use u).entered us

theorem counted_dispatch (b : Switchboard ε) (s : Session) (route : Route) (body : Bytes) :
    b.registry.Counted (b.dispatch s route body).1.board.registry := by
  unfold dispatch
  split
  · exact .none
  · exact .one ..

theorem outline_use (b : Switchboard ε) (u : Use ε) :
    (b.use u).registry.outline = b.registry.outline ++
      (b.addition? u).toList.map fun (typeName, candidates) =>
        (serviceName typeName, Candidate.names candidates) := by
  cases u with
  | dispatch s route body =>
      rw [use, (b.counted_dispatch s route body).outline]
      exact (List.append_nil _).symm
  | register typeName candidates =>
      rcases b.registry.register_cases typeName candidates with
        ⟨e, refused, same, -⟩ | ⟨accepted, -, joined⟩
      · simp only [use, addition?, refused, same, Option.toList_none, List.map_nil, List.append_nil]
      · simp only [use, addition?, accepted, joined, Option.toList_some, List.map_cons, List.map_nil]
        exact Registry.outline_withService ..

/-- The outline tells which registrations succeeded, and nothing else. -/
theorem outline_useAll (b : Switchboard ε) (us : List (Use ε)) :
    (b.useAll us).registry.outline = b.registry.outline ++
      (b.entered us).map fun (typeName, candidates) =>
        (serviceName typeName, Candidate.names candidates) := by
  induction us generalizing b with
  | nil => exact (List.append_nil _).symm
  | cons u us ih =>
      show ((b.use u).useAll us).registry.outline = _
      rw [ih, outline_use, entered, List.map_append, List.append_assoc]

theorem eq_register_of_addition? {b : Switchboard ε} {u : Use ε} {typeName : String}
    {candidates : List (Candidate (Method ε))} (h : b.addition? u = some (typeName, candidates)) :
    u = .register typeName candidates := by
  cases u with
  | dispatch s route body => cases h
  | register name others =>
      cases outcome : (b.registry.register name others).result with
      | error e => simp [addition?, outcome] at h
      | ok done =>
          obtain ⟨rfl, rfl⟩ : name = typeName ∧ others = candidates := by
            simpa [addition?, outcome] using h
          rfl

theorem addition?_of_isSome {b : Switchboard ε} {typeName : String}
    {candidates : List (Candidate (Method ε))}
    (h : (b.addition? (.register typeName candidates)).isSome = true) :
    b.addition? (.register typeName candidates) = some (typeName, candidates) := by
  obtain ⟨⟨name, others⟩, known⟩ := Option.isSome_iff_exists.mp h
  cases eq_register_of_addition? known
  exact known

theorem mem_entered {b : Switchboard ε} {us : List (Use ε)} {typeName : String}
    {candidates : List (Candidate (Method ε))} (h : (typeName, candidates) ∈ b.entered us) :
    .register typeName candidates ∈ us := by
  induction us generalizing b with
  | nil => cases h
  | cons u us ih =>
      rcases List.mem_append.mp h with now | later
      · have known : b.addition? u = some (typeName, candidates) := by simpa using now
        obtain rfl := eq_register_of_addition? known
        exact List.mem_cons_self
      · exact List.mem_cons_of_mem _ (ih later)

theorem move_use (b : Switchboard ε) (u : Use ε) : b.registry.Move (b.use u).registry := by
  cases u with
  | dispatch s route body => exact .counted (b.counted_dispatch s route body)
  | register typeName candidates =>
      rw [registry_register]
      exact .register typeName candidates

/-- What every move keeps holds of a registry however long it is used. -/
theorem kept_useAll {P : Registry (Method ε) → Prop}
    (kept : ∀ r later, P r → r.Move later → P later) {b : Switchboard ε} (start : P b.registry)
    (us : List (Use ε)) : P (b.useAll us).registry := by
  induction us generalizing b with
  | nil => exact start
  | cons u us ih => exact ih (kept _ _ start (b.move_use u))

/-- The registry of a node that has just begun, after some uses. -/
def reached (serverType : String) (forwards : Queue Forward) (us : List (Use ε)) : Switchboard ε :=
  (Switchboard.mk (.empty serverType) forwards).useAll us

theorem sound_reached (serverType : String) (forwards : Queue Forward) (us : List (Use ε)) :
    (reached serverType forwards us).registry.Sound :=
  kept_useAll (fun _ _ => .move) (Registry.sound_empty serverType) us

theorem plain_reached (serverType : String) (forwards : Queue Forward) {us : List (Use ε)}
    (plain : ∀ u ∈ us, u.Plain) :
    ∀ line ∈ (reached serverType forwards us).registry.outline, '.' ∉ line.1.toList := by
  intro line mem
  rw [reached, outline_useAll] at mem
  obtain ⟨⟨typeName, candidates⟩, entered, rfl⟩ := List.mem_map.mp mem
  exact plain _ (mem_entered entered)

theorem exists_call_iff (b : Switchboard ε) (s : Session) (route : Route) (body : Bytes) :
    (∃ call, (b.dispatch s route body).1.trace.calls = [call]) ↔
      (b.registry.find? route.service route.method).isSome = true := by
  unfold dispatch
  split
  · next none => simp [none, Trace.empty]
  · next entry found => simp [found]

/-- **A registration is all or nothing.** After any registrations and dispatches, one more registration
fails with the first objection to it and leaves the registry as it is, or nothing speaks against it and one
service comes in: the last callable candidate of each name, never called so far. What a dispatch comes to is
what is listed and what has a count, and no service is without methods. -/
theorem all_or_nothing (serverType : String) (forwards : Queue Forward) (us : List (Use ε))
    (plain : ∀ u ∈ us, u.Plain) :
    let b := reached serverType forwards us
    let r := b.registry
    (∀ typeName candidates,
      let attempt := r.register typeName candidates
      (∀ e, attempt.result = .error e ↔ r.Refuses typeName candidates e) ∧
      (attempt.result ≠ .ok () → attempt.registry = r) ∧
      (attempt.result = .ok () → ∃ entries : List (Entry (Method ε)),
        attempt.registry.services = r.services ++ [⟨serviceName typeName, typeName, entries⟩] ∧
        (entries.map (·.name)).Pairwise (· < ·) ∧
        ∀ e, e ∈ entries ↔ e.calls = 0 ∧ Candidate.Binds candidates e.name e.method)) ∧
    (∀ service method, '.' ∉ service.toList →
      ((r.calls? service method).isSome = true ↔ service ++ "." ++ method ∈ r.routes) ∧
      ∀ s category body,
        (∃ call, (b.dispatch s ⟨category, service, method⟩ body).1.trace.calls = [call]) ↔
          service ++ "." ++ method ∈ r.routes) ∧
    (r.services.map (·.name)).Nodup ∧ ∀ s ∈ r.services, s.entries ≠ [] := by
  intro b r
  have sound : r.Sound := sound_reached serverType forwards us
  refine ⟨?_, ?_, ?_, ?_⟩
  · intro typeName candidates attempt
    refine ⟨r.result_eq_error_iff typeName candidates, Registry.register_of_not_ok, ?_⟩
    intro accepted
    obtain ⟨-, joined⟩ := Registry.register_of_ok accepted
    have services : attempt.registry.services = r.services ++
        [⟨serviceName typeName, typeName, Registry.uncalled (Candidate.table candidates)⟩] := by
      rw [joined, Registry.withService]
    refine ⟨_, services, ?_, Registry.mem_uncalled_iff candidates⟩
    rw [Registry.names_uncalled]
    exact Candidate.pairwise_names candidates
  · intro service method pure
    have listed := Registry.text_mem_routes_iff (plain_reached serverType forwards plain) pure method
    have found := (sound.find?_isSome_iff service method).trans listed.symm
    refine ⟨?_, ?_⟩
    · rw [Registry.calls?, Option.isSome_map]
      exact found
    · intro s category body
      exact (b.exists_call_iff s ⟨category, service, method⟩ body).trans found
  · have distinct := sound.distinct
    rwa [Registry.outline, List.map_map] at distinct
  · intro s mem none
    refine (sound.lines _ (List.mem_map_of_mem mem)).filled ?_
    rw [none]
    rfl

/-- A second type of the same name, once the first serves and was called. -/
theorem all_or_nothing_of_room :
    let join : Candidate (Method Unit) := ⟨"Join", .handler fun _ body => .respond body fun _ => .done⟩
    let us := [.register "hall::Room" [join], .dispatch (.new 1 4) ⟨"chat", "Room", "Join"⟩ [1]]
    let r := (reached "chat" (.empty 1) us).registry
    let again := r.register "inn::Room<u8>" [⟨"Leave", .exclusive⟩]
    (∀ u ∈ us, u.Plain) ∧
      again.result = .error (.duplicate "Room") ∧
      again.registry.calls? "Room" "Join" = some 1 ∧ "Room.Join" ∈ r.routes := by
  intro join us r again
  have plain : ∀ u ∈ us, u.Plain := by decide +kernel
  have counted : r.calls? "Room" "Join" = some 1 := by decide +kernel
  have first : r.Refuses "inn::Room<u8>" [⟨"Leave", .exclusive⟩] (.duplicate "Room") := by
    refine ⟨⟨by decide +kernel, (r.serves_iff "Room").mp (by decide +kernel)⟩, ?_⟩
    intro other objection
    cases other with
    | emptyName refused => exact absurd objection.2 (by decide +kernel)
    | notExported name =>
        obtain ⟨rfl, hidden⟩ := objection
        exact absurd hidden (by decide +kernel)
    | _ => simp [RegistrationError.turn]
  obtain ⟨registrations, lookups, -⟩ := all_or_nothing "chat" (.empty 1) us plain
  obtain ⟨results, refused, -⟩ := registrations "inn::Room<u8>" [⟨"Leave", .exclusive⟩]
  have duplicate : again.result = .error (.duplicate "Room") := (results _).mpr first
  have kept : again.registry = r := refused (by rw [duplicate]; simp)
  refine ⟨plain, duplicate, ?_, ?_⟩
  · rw [kept]
    exact counted
  · refine (lookups "Room" "Join" (by decide)).1.mp ?_
    rw [counted]
    rfl

end Switchboard

end Connector
