import Mathlib.Data.List.Induction
import Connector.Proofs.Fates
import Connector.Proofs.Registries

/-! Calls of the methods of a registry, over everything that is done with it.

* `Switchboard.Since`, `Switchboard.find?_useAll`: a method can be called since the registration that brought
  it in, and has as many calls as came after that;
* `Switchboard.outcome`: what a registration or a call comes to, apart from the registry it leaves;
* `Registry.uncounted`, `Registry.register_uncounted`: the counts play no part in that;
* `Switchboard.Spares`, `Switchboard.uncounted_of_spares`: so a run without some uses that fail leads to the
  same, but for the counts;
* `Switchboard.counted_and_contained`: counts are exact, and a panic ends with the call in which it arose. -/

namespace Connector

namespace Registry

variable {μ : Type}

/-! ## What a registration brings in -/

theorem find?_uncalled_iff (candidates : List (Candidate μ)) (method : String) (e : Entry μ) :
    (uncalled (Candidate.table candidates)).find? (·.name == method) = some e ↔
      e.name = method ∧ e.calls = 0 ∧ Candidate.Binds candidates method e.method := by
  constructor
  · intro found
    have named : e.name = method := by simpa using List.find?_some found
    obtain ⟨uncalled, binds⟩ := (mem_uncalled_iff candidates e).mp (List.mem_of_find?_eq_some found)
    exact ⟨named, uncalled, named ▸ binds⟩
  · rintro ⟨rfl, uncalled, binds⟩
    have distinct : ((Registry.uncalled (Candidate.table candidates)).map (·.name)).Nodup := by
      rw [names_uncalled]
      refine (Candidate.pairwise_names candidates).imp ?_
      rintro a b before rfl
      exact String.lt_irrefl a before
    exact find?_of_nodup_key distinct ((mem_uncalled_iff candidates e).mpr ⟨uncalled, binds⟩)

theorem find?_withService {r : Registry μ} {name : String} (free : r.serves name = false)
    (typeName : String) (table : List (String × μ)) (service method : String) :
    (r.withService name typeName table).find? service method =
      if service = name then (uncalled table).find? (·.name == method) else r.find? service method := by
  have unknown : r.services.find? (·.name == name) = none := by simpa [serves, service?] using free
  by_cases same : service = name
  · subst same
    simp [find?, service?, withService, List.find?_append, unknown]
  · have other : (name == service) = false := by simpa using Ne.symm same
    simp [find?, service?, withService, List.find?_append, other, same]

theorem serves_of_find? {r : Registry μ} {service method : String} {e : Entry μ}
    (found : r.find? service method = some e) : r.serves service = true := by
  obtain ⟨s, known, -⟩ := Option.bind_eq_some_iff.mp found
  simp [serves, known]

end Registry

namespace Switchboard

variable {ε : Type}

/-! ## One call -/

theorem dispatch_of_unknown {b : Switchboard ε} {route : Route}
    (unknown : b.registry.find? route.service route.method = none) (s : Session) (body : Bytes) :
    b.dispatch s route body = (⟨b, s, .empty⟩, .error (b.noMethod route)) := by
  simp only [dispatch, unknown]

theorem dispatch_of_found {b : Switchboard ε} {route : Route} {entry : Entry (Method ε)}
    (found : b.registry.find? route.service route.method = some entry) (s : Session) (body : Bytes) :
    b.dispatch s route body =
      let run := (entry.method s body).run s
      (⟨{ b with registry := b.registry.count route.service route.method }, run.session,
        ⟨[⟨route.service, route.method, s.id, s.pending, body, run.reports, run.panic⟩], []⟩⟩,
        match run.panic with
        | none => .ok ()
        | some payload => .error (.handlerPanicked route.text payload.message)) := by
  unfold dispatch
  split
  · next unknown =>
      rw [found] at unknown
      cases unknown
  · next known =>
      cases found.symm.trans known
      rfl

/-! ## Calls since a registration -/

/-- The use is a call of the method, whatever kind of node its route is for. -/
def Use.calls (service method : String) : Use ε → Bool
  | .register .. => false
  | .dispatch _ route _ => route.service = service ∧ route.method = method

theorem Use.calls_dispatch (s : Session) (route : Route) (body : Bytes) (service method : String) :
    (Use.dispatch s route body : Use ε).calls service method = true ↔
      route.service = service ∧ route.method = method := decide_eq_true_iff

/-- The use is a registration that succeeds and brings in the method. -/
def Brings (b : Switchboard ε) (u : Use ε) (service method : String) (bound : Method ε) : Prop :=
  ∃ typeName candidates, b.addition? u = some (typeName, candidates) ∧
    serviceName typeName = service ∧ Candidate.Binds candidates method bound

/-- Some use brought the method in, and these are the uses after it. -/
def Since (b : Switchboard ε) (us : List (Use ε)) (service method : String) (bound : Method ε)
    (later : List (Use ε)) : Prop :=
  ∃ before u, us = before ++ u :: later ∧ (b.useAll before).Brings u service method bound

theorem useAll_concat (b : Switchboard ε) (us : List (Use ε)) (u : Use ε) :
    b.useAll (us ++ [u]) = (b.useAll us).use u := by
  simp [useAll]

theorem since_nil (b : Switchboard ε) (service method : String) (bound : Method ε)
    (later : List (Use ε)) : ¬ b.Since [] service method bound later := by
  rintro ⟨before, u, split, -⟩
  simp at split

theorem since_concat (b : Switchboard ε) (us : List (Use ε)) (u : Use ε) (service method : String)
    (bound : Method ε) (later : List (Use ε)) :
    b.Since (us ++ [u]) service method bound later ↔
      later = [] ∧ (b.useAll us).Brings u service method bound ∨
        ∃ earlier, later = earlier ++ [u] ∧ b.Since us service method bound earlier := by
  have split := exists_split_concat (P := fun before (x : Use ε) rest =>
    later = rest ∧ (b.useAll before).Brings x service method bound) us u
  constructor
  · rintro ⟨before, x, same, brings⟩
    refine (split.mp ⟨before, x, later, same, rfl, brings⟩).imp_right ?_
    rintro ⟨before, x, rest, same, ends, brings⟩
    exact ⟨rest, ends, before, x, same, brings⟩
  · rintro (⟨rfl, brings⟩ | ⟨earlier, rfl, before, x, same, brings⟩)
    · exact ⟨us, u, rfl, brings⟩
    · exact ⟨before, x, by simp [same], brings⟩

/-- How often the method was called, as a counter of 64 bits has it. -/
def ticks (service method : String) (us : List (Use ε)) : UInt64 :=
  .ofNat (us.countP (Use.calls service method))

/-- One more use is a call more of the method, or none. -/
theorem ticks_concat (us : List (Use ε)) (u : Use ε) (service method : String) :
    ticks service method (us ++ [u]) = ticks service method us + (u.calls service method).toUInt64 := by
  rw [ticks, List.countP_append, List.countP_singleton, UInt64.ofNat_add, ← ticks]
  cases u.calls service method with
  | false => rfl
  | true => rfl

theorem toNat_ticks {service method : String} {us : List (Use ε)}
    (few : us.countP (Use.calls service method) < UInt64.size) :
    (ticks service method us).toNat = us.countP (Use.calls service method) :=
  UInt64.toNat_ofNat_of_lt' few

theorem find?_use_dispatch (b : Switchboard ε) (s : Session) (route : Route) (body : Bytes)
    (service method : String) :
    let u : Use ε := .dispatch s route body
    (b.use u).registry.find? service method = (b.registry.find? service method).map fun e =>
      { e with calls := e.calls + (u.calls service method).toUInt64 } := by
  intro u
  cases found : b.registry.find? route.service route.method with
  | none =>
      rw [use, dispatch_of_unknown found]
      cases found' : b.registry.find? service method with
      | none => rfl
      | some e =>
          have other : u.calls service method = false := by
            rw [← Bool.not_eq_true, Use.calls_dispatch]
            rintro ⟨rfl, rfl⟩
            rw [found] at found'
            cases found'
          simp [other, Bool.toUInt64]
  | some entry =>
      rw [use, dispatch_of_found found, Registry.find?_count]
      congr 1
      funext e
      split
      · next same =>
          have called : u.calls service method = true := (Use.calls_dispatch ..).mpr same
          simp [called, Bool.toUInt64]
      · next apart =>
          have other : u.calls service method = false := by
            rwa [← Bool.not_eq_true, Use.calls_dispatch]
          simp [other, Bool.toUInt64]

theorem not_brings_dispatch (b : Switchboard ε) (s : Session) (route : Route) (body : Bytes)
    (service method : String) (bound : Method ε) :
    ¬ b.Brings (.dispatch s route body) service method bound := by
  rintro ⟨typeName, candidates, accepted, -⟩
  cases accepted

/-- What can be called after a registration: what it brings in, and what could be called before. -/
theorem find?_use_register (b : Switchboard ε) (typeName : String)
    (candidates : List (Candidate (Method ε))) (service method : String) (e : Entry (Method ε)) :
    (b.use (.register typeName candidates)).registry.find? service method = some e ↔
      (e.name = method ∧ e.calls = 0 ∧ b.Brings (.register typeName candidates) service method e.method) ∨
        b.registry.find? service method = some e := by
  rw [registry_register]
  rcases b.registry.register_cases typeName candidates with
    ⟨cause, refused, same, -⟩ | ⟨accepted, unopposed, joined⟩
  · have nothing : ¬ b.Brings (.register typeName candidates) service method e.method := by
      rintro ⟨_, _, known, -⟩
      simp [addition?, refused] at known
    rw [same]
    simp [nothing]
  · have free := Registry.not_serves_of_unopposed unopposed
    have brings : b.Brings (.register typeName candidates) service method e.method ↔
        serviceName typeName = service ∧ Candidate.Binds candidates method e.method := by
      simp [Brings, addition?, accepted]
    rw [joined, Registry.find?_withService free, brings]
    by_cases own : service = serviceName typeName
    · subst own
      have before : b.registry.find? (serviceName typeName) method ≠ some e := by
        intro found
        rw [Registry.serves_of_find? found] at free
        cases free
      simp [Registry.find?_uncalled_iff, before]
    · simp [own, Ne.symm own]

/-- A method can be called just when some use brought it in, and every call since then is counted. -/
theorem find?_useAll {b : Switchboard ε} (begun : b.registry.services = []) (us : List (Use ε))
    (service method : String) (e : Entry (Method ε)) :
    (b.useAll us).registry.find? service method = some e ↔
      e.name = method ∧ ∃ later, b.Since us service method e.method later ∧
        e.calls = ticks service method later := by
  -- From the end: one more use comes after every registration that was made, and may be one itself.
  induction us using List.reverseRecOn generalizing e with
  | nil =>
      have unknown : (b.useAll []).registry.find? service method = none := by
        simp [useAll, Registry.find?, Registry.service?, begun]
      simp [unknown, since_nil]
  | append_singleton us u ih =>
      simp only [useAll_concat, since_concat]
      cases u with
      | dispatch s route body =>
          rw [find?_use_dispatch, Option.map_eq_some_iff]
          simp only [not_brings_dispatch, and_false, false_or]
          constructor
          · rintro ⟨old, found, rfl⟩
            obtain ⟨named, later, since, counted⟩ := (ih old).mp found
            refine ⟨named, _, ⟨later, rfl, since⟩, ?_⟩
            rw [ticks_concat, ← counted]
          · rintro ⟨named, _, ⟨later, rfl, since⟩, counted⟩
            rw [ticks_concat] at counted
            refine ⟨⟨e.name, e.method, ticks service method later⟩, ?_, ?_⟩
            · exact (ih _).mpr ⟨named, later, since, rfl⟩
            · rw [← counted]
      | register typeName candidates =>
          have quiet (later : List (Use ε)) :
              ticks service method (later ++ [Use.register typeName candidates]) =
                ticks service method later := (ticks_concat ..).trans (UInt64.add_zero _)
          rw [find?_use_register, ih]
          constructor
          · rintro (⟨named, uncalled, brings⟩ | ⟨named, later, since, counted⟩)
            · exact ⟨named, [], .inl ⟨rfl, brings⟩, uncalled⟩
            · exact ⟨named, _, .inr ⟨later, rfl, since⟩, by rw [quiet, counted]⟩
          · rintro ⟨named, _, ⟨rfl, brings⟩ | ⟨later, rfl, since⟩, counted⟩
            · exact .inl ⟨named, counted, brings⟩
            · exact .inr ⟨named, later, since, by rw [counted, quiet]⟩

theorem calls?_useAll {b : Switchboard ε} (begun : b.registry.services = []) (us : List (Use ε))
    (service method : String) (n : UInt64) :
    (b.useAll us).registry.calls? service method = some n ↔
      ∃ bound later, b.Since us service method bound later ∧ n = ticks service method later := by
  rw [Registry.calls?, Option.map_eq_some_iff]
  constructor
  · rintro ⟨e, found, rfl⟩
    obtain ⟨-, later, since, counted⟩ := (find?_useAll begun us service method e).mp found
    exact ⟨e.method, later, since, counted⟩
  · rintro ⟨bound, later, since, rfl⟩
    refine ⟨⟨method, bound, _⟩, (find?_useAll begun us service method _).mpr ?_, rfl⟩
    exact ⟨rfl, later, since, rfl⟩

theorem Since.find? {b : Switchboard ε} (begun : b.registry.services = []) {us later : List (Use ε)}
    {service method : String} {bound : Method ε} (since : b.Since us service method bound later) :
    (b.useAll us).registry.find? service method =
      some ⟨method, bound, ticks service method later⟩ :=
  (find?_useAll begun us service method _).mpr ⟨rfl, later, since, rfl⟩

theorem find?_eq_none_iff {b : Switchboard ε} (begun : b.registry.services = []) (us : List (Use ε))
    (service method : String) :
    (b.useAll us).registry.find? service method = none ↔
      ∀ bound later, ¬ b.Since us service method bound later := by
  constructor
  · intro unknown bound later since
    rw [since.find? begun] at unknown
    cases unknown
  · intro never
    rw [Option.eq_none_iff_forall_ne_some]
    intro e found
    obtain ⟨-, later, since, -⟩ := (find?_useAll begun us service method e).mp found
    exact never e.method later since

/-- No service is empty, so one that is served has a method that was brought in. -/
theorem serves_reached_iff (serverType : String) (forwards : Queue Forward) (us : List (Use ε))
    (service : String) :
    (reached serverType forwards us).registry.serves service = true ↔
      ∃ method bound later,
        (Switchboard.mk (.empty serverType) forwards).Since us service method bound later := by
  constructor
  · intro served
    have sound := sound_reached serverType forwards us
    obtain ⟨s, mem, rfl⟩ := (Registry.serves_iff _ service).mp served
    have filled : s.entries.map (·.name) ≠ [] := (sound.lines _ (List.mem_map_of_mem mem)).filled
    obtain ⟨name, more, known⟩ := List.exists_cons_of_ne_nil filled
    have first : name ∈ s.entries.map (·.name) := known ▸ List.mem_cons_self
    obtain ⟨e, mem', named⟩ := List.mem_map.mp first
    have found := (sound.find?_isSome_iff s.name name).mpr
      ((Registry.mem_pairs_iff _ s.name name).mpr ⟨s, mem, rfl, e, mem', named⟩)
    obtain ⟨entry, found⟩ := Option.isSome_iff_exists.mp found
    obtain ⟨-, later, since, -⟩ := (find?_useAll rfl us s.name name entry).mp found
    exact ⟨name, entry.method, later, since⟩
  · rintro ⟨method, bound, later, since⟩
    exact Registry.serves_of_find? (since.find? rfl)

/-! ## Outcomes -/

/-- What a use comes to, apart from the switchboard that it leaves. -/
inductive Outcome (ε : Type) where
  | registered (result : Except RegistrationError Unit) (listed : Bool) (logs : List Log)
  | dispatched (result : Except DispatchError Unit) (session : Session) (trace : Trace ε)

def outcome (b : Switchboard ε) : Use ε → Outcome ε
  | .register typeName candidates =>
      let attempt := b.registry.register typeName candidates
      .registered attempt.result attempt.listed attempt.logs
  | .dispatch s route body =>
      let (routed, result) := b.dispatch s route body
      .dispatched result routed.session routed.trace

def outcomes (b : Switchboard ε) : List (Use ε) → List (Outcome ε)
  | [] => []
  | u :: us => b.outcome u :: (b.use u).outcomes us

/-- The registration is refused, the method is not found, or the handler panics. -/
def Outcome.Failed : Outcome ε → Prop
  | registered result _ _ => result ≠ .ok ()
  | dispatched result _ _ => result ≠ .ok ()

end Switchboard

/-! ## Without the counts -/

namespace Registry

variable {μ : Type}

/-- All of a registry but how often its methods were called. -/
def uncounted (r : Registry μ) : Registry μ :=
  { r with
    services := r.services.map fun s =>
      { s with entries := s.entries.map fun e => { e with calls := 0 } } }

theorem uncounted_count (r : Registry μ) (service method : String) :
    (r.count service method).uncounted = r.uncounted := by
  have bumped (e : Entry μ) :
      ({ (if e.name = method then { e with calls := e.calls + 1 } else e) with calls := 0 } : Entry μ) =
        { e with calls := 0 } := by
    split
    · rfl
    · rfl
  simp only [uncounted, count, List.map_map, Registry.mk.injEq, and_true, true_and]
  refine List.map_congr_left fun s _ => ?_
  simp only [Function.comp_apply]
  split
  · simp only [List.map_map, Function.comp_def, bumped]
  · rfl

theorem uncounted_uncounted (r : Registry μ) : r.uncounted.uncounted = r.uncounted := by
  simp [uncounted, Function.comp_def]

theorem serves_uncounted (r : Registry μ) (name : String) : r.uncounted.serves name = r.serves name := by
  simp only [serves, service?, uncounted, List.find?_map, Function.comp_def, Option.isSome_map]

theorem find?_uncounted (r : Registry μ) (service method : String) :
    r.uncounted.find? service method = (r.find? service method).map fun e => { e with calls := 0 } := by
  simp only [find?, service?, uncounted, List.find?_map, Function.comp_def]
  cases r.services.find? (·.name == service) with
  | none => rfl
  | some s => simp only [Option.map_some, Option.bind_some, List.find?_map, Function.comp_def]

theorem method_uncounted (r : Registry μ) (service method : String) :
    (r.uncounted.find? service method).map (·.method) = (r.find? service method).map (·.method) := by
  rw [find?_uncounted, Option.map_map]
  rfl

theorem dictionary_uncounted (r : Registry μ) : r.uncounted.dictionary = r.dictionary := rfl

theorem routes_uncounted (r : Registry μ) : r.uncounted.routes = r.routes := by
  simp [routes, uncounted, List.flatMap_map, Function.comp_def]

theorem dump_uncounted (r : Registry μ) : r.uncounted.dump = r.dump := by
  simp [dump, uncounted, List.flatMap_map, Function.comp_def]

theorem commit_uncounted (r : Registry μ) (name typeName : String) (table : List (String × μ)) :
    r.uncounted.commit name typeName table =
      (r.commit name typeName table).map fun (later, warnings) => (later.uncounted, warnings) := by
  have assigned : r.uncounted.assignCodes name = r.assignCodes name := rfl
  simp only [commit, serves_uncounted, assigned]
  split
  · rfl
  · simp [uncounted, Except.map]

/-- A registration does not look at the counts. -/
theorem register_uncounted (r : Registry μ) (typeName : String) (candidates : List (Candidate μ)) :
    r.uncounted.register typeName candidates =
      { r.register typeName candidates with
        registry := (r.register typeName candidates).registry.uncounted } := by
  have checked : r.uncounted.check typeName = r.check typeName := by simp only [check, serves_uncounted]
  simp only [register, checked, commit_uncounted]
  cases r.check typeName with
  | error e => rfl
  | ok name =>
      cases Candidate.table candidates with
      | nil => rfl
      | cons pair table =>
          dsimp only
          cases r.commit name typeName (pair :: table) with
          | error e => rfl
          | ok committed => simp [Except.map, dump_uncounted]

end Registry

namespace Switchboard

variable {ε : Type}

def uncounted (b : Switchboard ε) : Switchboard ε := { b with registry := b.registry.uncounted }

theorem uncounted_uncounted (b : Switchboard ε) : b.uncounted.uncounted = b.uncounted := by
  rw [uncounted, uncounted, Registry.uncounted_uncounted]

/-- A call changes nothing but the counts. -/
theorem uncounted_use_dispatch (b : Switchboard ε) (s : Session) (route : Route) (body : Bytes) :
    (b.use (.dispatch s route body)).uncounted = b.uncounted := by
  cases found : b.registry.find? route.service route.method with
  | none => rw [use, dispatch_of_unknown found]
  | some entry =>
      rw [use, dispatch_of_found found]
      simp only [uncounted, Registry.uncounted_count]

theorem outcome_uncounted (b : Switchboard ε) (u : Use ε) : b.uncounted.outcome u = b.outcome u := by
  cases u with
  | register typeName candidates => simp only [outcome, uncounted, Registry.register_uncounted]
  | dispatch s route body =>
      have looked := b.registry.find?_uncounted route.service route.method
      simp only [outcome]
      cases found : b.registry.find? route.service route.method with
      | none =>
          have found' : b.uncounted.registry.find? route.service route.method = none := by
            rw [uncounted, looked, found, Option.map_none]
          rw [dispatch_of_unknown found, dispatch_of_unknown found']
          simp only [noMethod, uncounted, Registry.serves_uncounted]
      | some entry =>
          have found' : b.uncounted.registry.find? route.service route.method =
              some { entry with calls := 0 } := by
            rw [uncounted, looked, found, Option.map_some]
          rw [dispatch_of_found found, dispatch_of_found found']

theorem uncounted_use (b : Switchboard ε) (u : Use ε) :
    (b.uncounted.use u).uncounted = (b.use u).uncounted := by
  cases u with
  | dispatch s route body =>
      rw [uncounted_use_dispatch, uncounted_use_dispatch, uncounted_uncounted]
  | register typeName candidates =>
      simp only [use, uncounted, Registry.register_uncounted, Registry.uncounted_uncounted]

/-- A use that fails changes nothing but the counts either. -/
theorem uncounted_use_of_failed {b : Switchboard ε} {u : Use ε} (failed : (b.outcome u).Failed) :
    (b.use u).uncounted = b.uncounted := by
  cases u with
  | dispatch s route body => exact b.uncounted_use_dispatch s route body
  | register typeName candidates =>
      have same : (b.registry.register typeName candidates).registry = b.registry :=
        Registry.register_of_not_ok failed
      rw [use, same]

section

variable {b other : Switchboard ε}

theorem outcome_congr (same : b.uncounted = other.uncounted) (u : Use ε) : b.outcome u = other.outcome u := by
  rw [← outcome_uncounted, same, outcome_uncounted]

theorem use_congr (same : b.uncounted = other.uncounted) (u : Use ε) :
    (b.use u).uncounted = (other.use u).uncounted := by
  rw [← uncounted_use, same, uncounted_use]

theorem useAll_congr (same : b.uncounted = other.uncounted) (us : List (Use ε)) :
    (b.useAll us).uncounted = (other.useAll us).uncounted := by
  induction us generalizing b other with
  | nil => exact same
  | cons u us ih => exact ih (use_congr same u)

theorem outcomes_congr (same : b.uncounted = other.uncounted) (us : List (Use ε)) :
    b.outcomes us = other.outcomes us := by
  induction us generalizing b other with
  | nil => rfl
  | cons u us ih => rw [outcomes, outcomes, outcome_congr same u, ih (use_congr same u)]

end

/-! ## Without the uses that fail -/

/-- The same uses without some of those that fail. -/
inductive Spares : Switchboard ε → List (Use ε) → List (Use ε) → Prop
  | nil (b : Switchboard ε) : Spares b [] []
  | keep {b : Switchboard ε} (u : Use ε) {us kept : List (Use ε)} (later : Spares (b.use u) us kept) :
      Spares b (u :: us) (u :: kept)
  | skip {b : Switchboard ε} {u : Use ε} {us kept : List (Use ε)} (failed : (b.outcome u).Failed)
      (later : Spares (b.use u) us kept) : Spares b (u :: us) kept

theorem uncounted_of_spares {b other : Switchboard ε} {us kept : List (Use ε)} (spares : b.Spares us kept)
    (same : b.uncounted = other.uncounted) : (b.useAll us).uncounted = (other.useAll kept).uncounted := by
  induction spares generalizing other with
  | nil b => exact same
  | keep u later ih => exact ih (use_congr same u)
  | skip failed later ih => exact ih ((uncounted_use_of_failed failed).trans same)

/-- **Counts are exact, and a panic ends with its call.** Take any registrations and calls of a registry that
was empty at first. A method has a count just since the registration that brought it in, and the count is that
of the calls made for it since then, be the kind of node in their routes what it may, whether they panicked or
not, in 64 bits: as long as there are fewer than `UInt64.size`, it is their number. A call of such a method
runs, once, the handler that was brought in, with the session and the body that were given, and its caller is
told of a panic and what it carried. A call of another method runs nothing and changes nothing. And had some of
the uses that failed not been made, all later uses would come to the same, and all look-ups but those of the
counts. -/
theorem counted_and_contained (serverType : String) (forwards : Queue Forward) (us : List (Use ε)) :
    let start : Switchboard ε := ⟨.empty serverType, forwards⟩
    let now := start.useAll us
    (∀ service method n, now.registry.calls? service method = some n ↔
      ∃ bound later, start.Since us service method bound later ∧
        n = .ofNat (later.countP (Use.calls service method))) ∧
    (∀ service method, now.registry.calls? service method = none ↔
      ∀ bound later, ¬ start.Since us service method bound later) ∧
    (∀ service method bound later, start.Since us service method bound later →
      later.countP (Use.calls service method) < UInt64.size →
      (now.registry.calls? service method).map (·.toNat) =
        some (later.countP (Use.calls service method))) ∧
    (∀ s route body bound later, start.Since us route.service route.method bound later →
      let run := (bound s body).run s
      now.outcome (.dispatch s route body) = .dispatched
        (match run.panic with
          | none => .ok ()
          | some payload => .error (.handlerPanicked route.text payload.message))
        run.session
        ⟨[⟨route.service, route.method, s.id, s.pending, body, run.reports, run.panic⟩], []⟩) ∧
    (∀ s route body, (∀ bound later, ¬ start.Since us route.service route.method bound later) →
      now.use (.dispatch s route body) = now ∧
      ∃ e, now.outcome (.dispatch s route body) = .dispatched (.error e) s .empty ∧
        ((∃ method bound later, start.Since us route.service method bound later) →
          e = .methodNotFound route.service route.method) ∧
        ((∀ method bound later, ¬ start.Since us route.service method bound later) →
          e = .serviceNotFound route.service)) ∧
    ∀ kept, start.Spares us kept → ∀ later,
      let other := start.useAll kept
      now.outcomes later = other.outcomes later ∧
        let r := (now.useAll later).registry
        let r' := (other.useAll later).registry
        r.dictionary = r'.dictionary ∧ r.routes = r'.routes ∧ r.dump = r'.dump ∧
          ∀ service method, (r.find? service method).map (·.method) =
            (r'.find? service method).map (·.method) := by
  intro start now
  refine ⟨calls?_useAll rfl us, ?_, ?_, ?_, ?_, ?_⟩
  · intro service method
    rw [Registry.calls?, Option.map_eq_none_iff]
    exact find?_eq_none_iff rfl us service method
  · intro service method bound later since few
    rw [(calls?_useAll rfl us service method _).mpr ⟨bound, later, since, rfl⟩, Option.map_some,
      toNat_ticks few]
  · intro s route body bound later since run
    simp only [outcome]
    rw [dispatch_of_found (since.find? rfl)]
  · intro s route body never
    have unknown : now.registry.find? route.service route.method = none :=
      (find?_eq_none_iff rfl us _ _).mpr never
    have served := serves_reached_iff serverType forwards us route.service
    simp only [use, outcome, dispatch_of_unknown unknown]
    refine ⟨trivial, _, rfl, ?_, ?_⟩
    · intro brought
      exact if_pos (served.mpr brought)
    · intro unserved
      refine if_neg fun serves => ?_
      obtain ⟨method, bound, later, since⟩ := served.mp serves
      exact unserved method bound later since
  · intro kept spares later other
    have same : now.uncounted = other.uncounted := uncounted_of_spares spares rfl
    have last : (now.useAll later).registry.uncounted = (other.useAll later).registry.uncounted :=
      congrArg Switchboard.registry (useAll_congr same later)
    refine ⟨outcomes_congr same later, ?_, ?_, ?_, ?_⟩
    · rw [← Registry.dictionary_uncounted, last, Registry.dictionary_uncounted]
    · rw [← Registry.routes_uncounted, last, Registry.routes_uncounted]
    · rw [← Registry.dump_uncounted, last, Registry.dump_uncounted]
    · intro service method
      rw [← Registry.method_uncounted, last, Registry.method_uncounted]

/-- A method panics twice, once for a route to another kind of node. Between the two a method is not found and
a second service of the same name is refused. -/
theorem counted_and_contained_of_panic :
    let join : Candidate (Method Unit) := ⟨"Join", .handler fun _ _ => .panic (.text "full")⟩
    let s := Session.new 1 4
    let joining (serverType : String) : Use Unit := .dispatch s ⟨serverType, "Room", "Join"⟩ [7]
    let later := [joining "chat", .dispatch s ⟨"chat", "Room", "Fail"⟩ [], .register "inn::Room" [join],
      joining "area"]
    let start : Switchboard Unit := ⟨.empty "chat", .empty 0⟩
    let now := start.useAll (.register "hall::Room" [join] :: later)
    let bare := start.use (.register "hall::Room" [join])
    now.registry.calls? "Room" "Join" = some 2 ∧ now.registry.calls? "Room" "Fail" = none ∧
      now.outcome (joining "chat") = .dispatched (.error (.handlerPanicked "chat.Room.Join" "full")) s
        ⟨[⟨"Room", "Join", 1, 0, [7], [], some (.text "full")⟩], []⟩ ∧
      ∀ more, now.outcomes more = bare.outcomes more := by
  intro join s joining later start now bare
  have known : start.addition? (.register "hall::Room" [join]) = some ("hall::Room", [join]) :=
    addition?_of_isSome (by decide +kernel)
  have since : start.Since (.register "hall::Room" [join] :: later) "Room" "Join"
      (fun _ _ => .panic (.text "full")) later := by
    have named : serviceName "hall::Room" = "Room" := by decide +kernel
    have offers : join.Offers "Join" (fun _ _ => .panic (.text "full")) := ⟨rfl, by decide +kernel, rfl⟩
    exact ⟨[], _, rfl, _, _, known, named, [], join, [], rfl, offers, by simp⟩
  have spares : start.Spares (.register "hall::Room" [join] :: later) [.register "hall::Room" [join]] := by
    refine .keep _ (.skip ?_ (.skip ?_ (.skip ?_ (.skip ?_ (.nil _)))))
    all_goals
      refine fun ok => absurd (congrArg Except.isOk ok) ?_
      decide +kernel
  obtain ⟨counts, -, -, runs, -, same⟩ := counted_and_contained (ε := Unit) "chat" (.empty 0)
    (.register "hall::Room" [join] :: later)
  refine ⟨(counts ..).mpr ⟨_, later, since, by decide +kernel⟩, by decide +kernel, ?_, ?_⟩
  · exact runs s ⟨"chat", "Room", "Join"⟩ [7] _ later since
  · exact fun more => (same _ spares more).1

end Switchboard

end Connector
