import Connector.Proofs.CallCounts
import Connector.Proofs.SharedCodes

/-! Services by the names of their types.

* `NamedType`: the full name of a type in three parts, each in its form;
* `NamedType.serviceName_typeName`: the service of a type has the identifier of the type for its name;
* `Registry.Move.serves`, `Registry.Move.grows`: names stay taken, and codes are kept;
* `Switchboard.find?_useAll_of_serves`: a service that is there keeps its methods and what they are bound to;
* `Switchboard.find?_since_register`: they are those that its registration offered, and no others;
* `Switchboard.one_service_per_identifier`: so of the types with one identifier, one can be registered. -/

namespace Connector

/-! ## The last part of a path -/

namespace Text

theorem dropWhile_isBlank {cs : List Char} (pure : ∀ c ∈ cs, isBlank c = false) :
    cs.dropWhile isBlank = cs := by
  cases cs with
  | nil => rfl
  | cons c cs => exact List.dropWhile_cons_of_neg (by simp [pure c List.mem_cons_self])

theorem trim_of_not_blank {cs : List Char} (pure : ∀ c ∈ cs, isBlank c = false) : trim cs = cs := by
  have reversed : ∀ c ∈ cs.reverse, isBlank c = false := fun c mem => pure c (List.mem_reverse.mp mem)
  rw [trim, dropWhile_isBlank pure, trimEnd, dropWhile_isBlank reversed, List.reverse_reverse]

end Text

namespace ServiceName

theorem afterLastColons_of_not_mem {name : List Char} (pure : ':' ∉ name) :
    afterLastColons name = none := by
  induction name with
  | nil => rfl
  | cons c name ih =>
      obtain ⟨other, pure⟩ := not_or.mp (mt List.mem_cons.mpr pure)
      simp [afterLastColons, ih pure, Ne.symm other]

/-- One colon in front is no pair. -/
theorem afterLastColons_colon {name : List Char} (pure : ':' ∉ name) :
    afterLastColons (':' :: name) = none := by
  cases name with
  | nil => rfl
  | cons c name =>
      have none := afterLastColons_of_not_mem pure
      obtain ⟨other, -⟩ := not_or.mp (mt List.mem_cons.mpr pure)
      rw [afterLastColons, none]
      simp [Ne.symm other]

/-- Whatever stands before it, be it colons, the pair right before a text without colons is the last. -/
theorem afterLastColons_append {name : List Char} (pure : ':' ∉ name) (path : List Char) :
    afterLastColons (path ++ ':' :: ':' :: name) = some name := by
  induction path with
  | nil => rw [List.nil_append, afterLastColons, afterLastColons_colon pure]
  | cons c path ih => simp [afterLastColons, ih]

end ServiceName

/-! ## Names of types -/

/-- A type by its full name: the modules it is declared in, its own identifier, its generic arguments. The
first bracket opens the arguments. In these there may be anything, paths and brackets included. -/
structure NamedType where
  path : String
  identifier : String
  arguments : String
  declared : path = "" ∨ '<' ∉ path.toList ∧ [':', ':'] <:+ path.toList
  undivided : ':' ∉ identifier.toList
  unbracketed : '<' ∉ identifier.toList
  unspaced : identifier.toList.any Text.isBlank = false
  bracketed : arguments = "" ∨ arguments.toList.head? = some '<'

namespace NamedType

def typeName (t : NamedType) : String := t.path ++ t.identifier ++ t.arguments

variable (t : NamedType)

theorem bracket_not_mem_path : '<' ∉ t.path.toList := by
  rcases t.declared with none | ⟨pure, -⟩
  · simp [none]
  · exact pure

/-- The arguments begin at the first bracket. -/
theorem takeWhile_typeName :
    t.typeName.toList.takeWhile (· != '<') = t.path.toList ++ t.identifier.toList := by
  have before : ∀ c ∈ t.path.toList ++ t.identifier.toList, (c != '<') = true := by
    intro c mem
    rw [bne_iff_ne]
    rintro rfl
    rcases List.mem_append.mp mem with inPath | inIdentifier
    · exact t.bracket_not_mem_path inPath
    · exact t.unbracketed inIdentifier
  have none : t.arguments.toList.takeWhile (· != '<') = [] := by
    rcases t.bracketed with empty | opened
    · simp [empty]
    · obtain ⟨inside, same⟩ := List.head?_eq_some_iff.mp opened
      simp [same]
  rw [typeName, String.toList_append, String.toList_append, List.takeWhile_append_of_pos before, none,
    List.append_nil]

theorem ofPath_eq : ServiceName.ofPath (t.path.toList ++ t.identifier.toList) = t.identifier.toList := by
  rcases t.declared with none | ⟨-, modules, same⟩
  · have alone := ServiceName.afterLastColons_of_not_mem t.undivided
    simp [ServiceName.ofPath, none, alone]
  · have last := ServiceName.afterLastColons_append t.undivided modules
    simp [ServiceName.ofPath, ← same, last]

theorem serviceName_typeName : serviceName t.typeName = t.identifier := by
  have pure : ∀ c ∈ t.identifier.toList, Text.isBlank c = false := by
    simpa using t.unspaced
  rw [serviceName, ServiceName.ofType, takeWhile_typeName, ofPath_eq, Text.trim_of_not_blank pure,
    String.ofList_toList]

end NamedType

/-! ## Services that are there -/

namespace Registry

variable {μ : Type}

theorem serves_iff_mem_outline (r : Registry μ) (name : String) :
    r.serves name = true ↔ name ∈ r.outline.map (·.1) := by
  simp [serves_iff, outline]

theorem serves_withService (r : Registry μ) (name typeName : String) (table : List (String × μ)) :
    (r.withService name typeName table).serves name = true := by
  simp [serves_iff_mem_outline, outline_withService]

theorem Move.serves {r later : Registry μ} (moved : r.Move later) {name : String}
    (served : r.serves name = true) : later.serves name = true := by
  cases moved with
  | counted counted => rwa [serves_iff_mem_outline, counted.outline, ← serves_iff_mem_outline]
  | register typeName candidates =>
      rcases r.register_cases typeName candidates with ⟨e, -, same, -⟩ | ⟨-, -, joined⟩
      · rw [same]
        exact served
      · rw [serves_iff_mem_outline] at served ⊢
        rw [joined, outline_withService, List.map_append]
        exact List.mem_append_left _ served

theorem Move.grows {r later : Registry μ} (moved : r.Move later) :
    r.dictionary.Grows later.dictionary := by
  cases moved with
  | counted counted => exact .of_eq counted.dictionary
  | register typeName candidates => exact r.register_grows typeName candidates

end Registry

namespace Switchboard

variable {ε : Type}

theorem serves_useAll {b : Switchboard ε} {name : String} (served : b.registry.serves name = true)
    (us : List (Use ε)) : (b.useAll us).registry.serves name = true :=
  kept_useAll (fun _ _ served moved => moved.serves served) served us

theorem grows_useAll (b : Switchboard ε) (us : List (Use ε)) :
    b.registry.dictionary.Grows (b.useAll us).registry.dictionary :=
  kept_useAll (P := fun r => b.registry.dictionary.Grows r.dictionary)
    (fun _ _ grown moved => grown.trans moved.grows) (.refl _) us

/-- A use calls a method of a service that is there, or leaves the service as it is. -/
theorem find?_use_of_serves {b : Switchboard ε} {service : String}
    (served : b.registry.serves service = true) (u : Use ε) (method : String) :
    (b.use u).registry.find? service method = (b.registry.find? service method).map fun e =>
      { e with calls := e.calls + (u.calls service method).toUInt64 } := by
  cases u with
  | dispatch s route body => exact b.find?_use_dispatch s route body service method
  | register typeName candidates =>
      have kept : (b.use (.register typeName candidates)).registry.find? service method =
          b.registry.find? service method := by
        rw [registry_register]
        rcases b.registry.register_cases typeName candidates with
          ⟨e, -, same, -⟩ | ⟨-, unopposed, joined⟩
        · rw [same]
        · have free := Registry.not_serves_of_unopposed unopposed
          have other : service ≠ serviceName typeName := by
            rintro rfl
            rw [free] at served
            cases served
          rw [joined, Registry.find?_withService free, if_neg other]
      rw [kept]
      simp [Use.calls, Bool.toUInt64]

/-- A service that is there keeps its methods and what they are bound to, and their calls are counted. -/
theorem find?_useAll_of_serves {b : Switchboard ε} {service : String}
    (served : b.registry.serves service = true) (us : List (Use ε)) (method : String) :
    (b.useAll us).registry.find? service method = (b.registry.find? service method).map fun e =>
      { e with calls := e.calls + ticks service method us } := by
  induction us using List.reverseRecOn with
  | nil => simp [useAll, ticks]
  | append_singleton us u ih =>
      rw [useAll_concat, find?_use_of_serves (serves_useAll served us), ih, Option.map_map,
        ticks_concat]
      simp only [Function.comp_def, UInt64.add_assoc]

/-- A registration that succeeds brings in a service. -/
theorem serves_use_register {b : Switchboard ε} {typeName : String}
    {candidates : List (Candidate (Method ε))}
    (accepted : (b.registry.register typeName candidates).result = .ok ()) :
    (b.use (.register typeName candidates)).registry.serves (serviceName typeName) = true := by
  rw [registry_register, (Registry.register_of_ok accepted).2]
  exact Registry.serves_withService ..

/-- For ever after the service has the methods that the registration offered, and no others. -/
theorem find?_since_register {b : Switchboard ε} {typeName : String}
    {candidates : List (Candidate (Method ε))}
    (accepted : (b.registry.register typeName candidates).result = .ok ()) (later : List (Use ε))
    (method : String) (e : Entry (Method ε)) :
    ((b.use (.register typeName candidates)).useAll later).registry.find? (serviceName typeName) method =
        some e ↔
      e.name = method ∧ Candidate.Binds candidates method e.method ∧
        e.calls = ticks (serviceName typeName) method later := by
  obtain ⟨unopposed, added⟩ := Registry.register_of_ok accepted
  have free := Registry.not_serves_of_unopposed unopposed
  rw [find?_useAll_of_serves (serves_use_register accepted), registry_register, added,
    Registry.find?_withService free, if_pos rfl, Option.map_eq_some_iff]
  simp only [Registry.find?_uncalled_iff]
  constructor
  · rintro ⟨fresh, ⟨named, uncalled, binds⟩, rfl⟩
    exact ⟨named, binds, by rw [uncalled, UInt64.zero_add]⟩
  · rintro ⟨named, binds, counted⟩
    refine ⟨{ e with calls := 0 }, ⟨named, rfl, binds⟩, ?_⟩
    rw [UInt64.zero_add, ← counted]

/-- **Of the types with one identifier, one can be registered.** The name of a service is the identifier of
its type, whatever the path and the arguments. So take two types that differ in those alone, and register one
of them at any time. Whatever is done after that, to register the other is refused because the name is taken:
its candidates are not looked at, nothing is said and the registry stays as it is. This holds too if its name
was checked earlier and it only has to be committed. The service has the methods of the first type and no
others, bound as the first one bound them, with the calls counted since, and no route has lost its code. -/
theorem one_service_per_identifier :
    (∀ t : NamedType, serviceName t.typeName = t.identifier) ∧
    ∀ (serverType : String) (forwards : Queue Forward) (before : List (Use ε)) (first second : NamedType)
      (candidates : List (Candidate (Method ε))) (later : List (Use ε)),
      second.identifier = first.identifier →
      ((reached serverType forwards before).registry.register first.typeName candidates).result = .ok () →
      let joined := (reached serverType forwards before).use (.register first.typeName candidates)
      let r := (joined.useAll later).registry
      let name := first.identifier
      isExported name = true ∧
        (∀ others, r.register second.typeName others = ⟨r, .error (.duplicate name), false, []⟩) ∧
        (∀ table, r.commit name second.typeName table = .error (.duplicate name)) ∧
        (∀ method entry, r.find? name method = some entry ↔
          entry.name = method ∧ Candidate.Binds candidates method entry.method ∧
            entry.calls = .ofNat (later.countP (Use.calls name method))) ∧
        ∀ route code, joined.registry.dictionary.code? route = some code →
          r.dictionary.code? route = some code := by
  refine ⟨NamedType.serviceName_typeName, ?_⟩
  intro serverType forwards before first second candidates later same accepted joined r name
  have named : serviceName first.typeName = name := first.serviceName_typeName
  have named' : serviceName second.typeName = name := second.serviceName_typeName.trans same
  have unopposed := (Registry.register_of_ok accepted).1
  have exported : isExported name = true := named ▸ (Registry.soundLine_of_unopposed unopposed).exported
  have served : r.serves name = true := named ▸ serves_useAll (serves_use_register accepted) later
  refine ⟨exported, ?_, ?_, ?_, ?_⟩
  · intro others
    have refused := Registry.register_of_taken (named'.symm ▸ exported) (named'.symm ▸ served) others
    rwa [named'] at refused
  · exact Registry.commit_of_taken served second.typeName
  · rw [← named]
    exact find?_since_register accepted later
  · intro route code told
    exact (joined.grows_useAll later).code? told

/-- Rooms of two modules, the second with arguments that have a path and brackets of their own. -/
theorem one_service_per_identifier_of_rooms :
    let hall : NamedType := ⟨"hall::", "Room", "", by decide, by decide, by decide, by decide, by decide⟩
    let inn : NamedType :=
      ⟨"inn:::", "Room", "<hall::Guest<u8>>", by decide, by decide, by decide, by decide, by decide⟩
    let join : Candidate (Method Unit) := ⟨"Join", .handler fun _ body => .respond body fun _ => .done⟩
    let later := [.dispatch (.new 1 4) ⟨"chat", "Room", "Join"⟩ [7], .register "inn::Guest" [join]]
    let r := (((reached "chat" (.empty 1) []).use (.register hall.typeName [join])).useAll later).registry
    ((reached "chat" (.empty 1) []).registry.register hall.typeName [join]).result = .ok () ∧
      inn.typeName = "inn:::Room<hall::Guest<u8>>" ∧
      serviceName inn.typeName = "Room" ∧
      r.register inn.typeName [⟨"Leave", join.shape⟩] = ⟨r, .error (.duplicate "Room"), false, []⟩ ∧
      r.calls? "Room" "Join" = some 1 ∧ r.dictionary.code? "chat.Room.Join" = some 1 := by
  intro hall inn join later r
  have accepted : ((reached "chat" (.empty 1) []).registry.register hall.typeName [join]).result = .ok () := by
    decide +kernel
  obtain ⟨names, services⟩ := one_service_per_identifier (ε := Unit)
  obtain ⟨-, refused, -, methods, codes⟩ :=
    services "chat" (.empty 1) [] hall inn [join] later rfl accepted
  have binds : Candidate.Binds [join] "Join" fun _ body => .respond body fun _ => .done :=
    ⟨[], join, [], rfl, ⟨rfl, by decide +kernel, rfl⟩, by simp⟩
  have found : r.find? "Room" "Join" = some ⟨"Join", _, 1⟩ :=
    (methods "Join" _).mpr ⟨rfl, binds, by decide +kernel⟩
  let us : List (Use Unit) := [.register hall.typeName [join]]
  have plain : ∀ u ∈ us, u.Plain := by decide +kernel
  have listed : (reached "chat" (.empty 1) us).registry.pairs[0]? = some ("Room", "Join") := by
    decide +kernel
  have coded := code?_of_pairs "chat" (.empty 1) plain listed (by decide)
  have joined : reached "chat" (.empty 1) us =
      (reached "chat" (.empty 1) []).use (.register hall.typeName [join]) := useAll_concat _ [] _
  have spelt : (Registry.routeOf "chat" ("Room", "Join")).text = "chat.Room.Join" := by decide
  rw [joined, spelt] at coded
  refine ⟨accepted, by decide, names inn, refused _, ?_, codes _ _ coded⟩
  rw [Registry.calls?, found, Option.map_some]

end Switchboard

end Connector
