import Connector.Proofs.Moves
import Connector.Proofs.SharedCodes
import Connector.Settings

/-! Routes that a node advertises, and what comes of a request with a code of theirs.

* `Registry.Advertises`, `Registry.InUse.move`: every route of the dictionary is that of some method, always;
* `Message.decode_codedRequest`: a request with a code reads as one with the route in full;
* `Hub.advertised`: it calls the method, provided that no name has a point in it. -/

namespace Connector

/-! ## What a dictionary advertises -/

namespace Registry

variable {μ : Type}

/-- Every route of the dictionary is that of a method that can be called. -/
def Advertises (r : Registry μ) : Prop :=
  ∀ route ∈ r.dictionary.routes.toList, ∃ pair ∈ r.pairs, (routeOf r.serverType pair).text = route

theorem advertises_empty (serverType : String) : (empty serverType : Registry μ).Advertises :=
  fun route mem => by cases mem

theorem Advertises.move {r later : Registry μ} (advertises : r.Advertises) (moved : r.Move later) :
    later.Advertises := by
  cases moved with
  | counted counted =>
      have same : later.pairs = r.pairs := by rw [pairs, counted.outline, ← pairs]
      rw [Advertises, same, counted.dictionary, counted.serverType]
      exact advertises
  | register typeName candidates =>
      rcases r.register_cases typeName candidates with ⟨e, -, same, -⟩ | ⟨-, -, joined⟩
      · rw [same]
        exact advertises
      · rw [joined]
        intro route mem
        simp only [pairs, outline_withService, List.flatMap_append, List.mem_append]
        rcases RouteDictionary.mem_routes_insertAll mem with old | new
        · obtain ⟨pair, paired, same⟩ := advertises route old
          exact ⟨pair, .inl paired, same⟩
        · obtain ⟨method, listed, rfl⟩ := List.mem_map.mp new
          refine ⟨(serviceName typeName, method), .inr ?_, rfl⟩
          simpa using listed

/-- No service and no method is without a name. -/
theorem Sound.named {r : Registry μ} (sound : r.Sound) {pair : String × String} (mem : pair ∈ r.pairs) :
    pair.1 ≠ "" ∧ pair.2 ≠ "" := by
  obtain ⟨line, listed, inside⟩ := List.mem_flatMap.mp mem
  obtain ⟨method, mem', rfl⟩ := List.mem_map.mp inside
  have held := sound.lines line listed
  exact ⟨ne_empty_of_isExported held.exported, ne_empty_of_isExported (held.callable method mem')⟩

end Registry

/-- What holds of the registry of a server type however long it is used. -/
structure Registry.InUse {μ : Type} (serverType : String) (r : Registry μ) : Prop where
  sound : r.Sound
  advertises : r.Advertises
  serverType : r.serverType = serverType

namespace Registry

variable {μ : Type}

theorem inUse_empty (serverType : String) : (empty serverType : Registry μ).InUse serverType :=
  ⟨sound_empty serverType, advertises_empty serverType, rfl⟩

theorem InUse.move {serverType : String} {r later : Registry μ} (h : r.InUse serverType)
    (moved : r.Move later) : later.InUse serverType :=
  ⟨h.sound.move moved, h.advertises.move moved, moved.serverType.trans h.serverType⟩

end Registry

theorem Switchboard.inUse_reached {ε : Type} (serverType : String) (forwards : Queue Forward)
    (us : List (Use ε)) : (reached serverType forwards us).registry.InUse serverType :=
  kept_useAll (fun _ _ => .move) (Registry.inUse_empty serverType) us

theorem Settings.serverType_ne {s : Settings} (valid : s.validate = .ok s) : s.general.serverType ≠ "" := by
  intro empty
  rw [validate, if_pos (by rw [empty]; rfl)] at valid
  cases valid

/-! ## Requests by code -/

variable {ε : Type}

namespace Message

/-- A request with the code of a route, in its wire form. -/
def codedRequest (id : UInt64) (code : Nat) (body : Bytes) : Bytes :=
  flag .request true :: (Varint.encode id ++ codeField code ++ body)

/-- It is read as a request with the route in full. -/
theorem decode_codedRequest {d : RouteDictionary} {route : String} {code : Nat}
    (told : d.code? route = some code) (id : UInt64) (body : Bytes) :
    decode d (codedRequest id code body) = .ok (.request id route body) := by
  have coded : (request id route body).code? (some d) = some code := told
  have written : (request id route body).encode (some d) = .ok (codedRequest id code body) := by
    have field : (request id route body).routeField (some code) = .ok (codeField code) := rfl
    rw [← coded] at field
    rw [encode_of_field field, coded]
    rfl
  refine decode_of_encode written fun k found => ?_
  rw [coded] at found
  cases found
  exact (d.code?_eq_some_iff route code).mp told

end Message

/-- The fate of a request by code. The method that the code was made for is there, but the text of its route
only leads back to it if no name has a point in it. -/
theorem Fate.of_codedRequest {r : Registry (Method ε)} (sound : r.Sound) (advertises : r.Advertises)
    (typed : r.serverType ≠ "") {route : String} {code : Nat}
    (told : r.dictionary.code? route = some code) {id : UInt64} (answerable : id ≠ 0) (body : Bytes) :
    ∃ service method entry, r.find? service method = some entry ∧
      let called : Route := ⟨r.serverType, service, method⟩
      let m := Message.request id route body
      called.text = route ∧
        (¬ called.Pointed → (Fate.dispatched m called).Of r (Message.codedRequest id code body)) ∧
        (called.Pointed → (Fate.refused m).Of r (Message.codedRequest id code body)) := by
  have listed : route ∈ r.dictionary.routes.toList := by
    refine Classical.byContradiction fun absent => ?_
    rw [(r.dictionary.code?_eq_none_iff route).mpr absent] at told
    cases told
  obtain ⟨⟨service, method⟩, paired, rfl⟩ := advertises route listed
  obtain ⟨entry, found⟩ := Option.isSome_iff_exists.mp ((sound.find?_isSome_iff service method).mpr paired)
  obtain ⟨named, named'⟩ := sound.named paired
  have read := Message.decode_codedRequest told id body
  have filled : ∀ part ∈ [r.serverType, service, method], part ≠ "" := by simp [typed, named, named']
  refine ⟨service, method, entry, found, rfl, ?_, ?_⟩
  · intro pure
    exact ⟨read, ⟨(Route.proper_iff _).mpr ⟨filled, pure⟩, rfl⟩, .inr ⟨rfl, answerable⟩, rfl⟩
  · intro pointed
    exact ⟨read, .inl fun other isFor => Route.not_pointed_of_text_eq isFor.2 isFor.1 pointed⟩

namespace Hub

theorem registry_of_new {settings : Settings} {registry : Registry (Method ε)} {capacity : Nat}
    {start : Hub ε} (begun : Hub.new settings registry capacity = .ok start) :
    start.registry = registry ∧ registry.serverType = settings.general.serverType := by
  unfold Hub.new at begun
  split at begun
  · next same =>
      cases begun
      exact ⟨rfl, same⟩
  · cases begun

theorem inUse_afterAll {settings : Settings} {serverType : String} {forwards : Queue Forward}
    {us : List (Switchboard.Use ε)} {capacity : Nat} {start : Hub ε}
    (begun : Hub.new settings (Switchboard.reached serverType forwards us).registry capacity = .ok start)
    (es : List (Event ε)) :
    (start.afterAll es).registry.InUse serverType ∧ serverType = settings.general.serverType := by
  have reached := Switchboard.inUse_reached serverType forwards us
  obtain ⟨same, agreed⟩ := registry_of_new begun
  refine ⟨kept_afterAll (fun _ _ => .move) (same ▸ reached) es, ?_⟩
  rw [← agreed, reached.serverType]

/-- **What a node advertises can be called, if no name has a point in it.** Take a node with valid settings,
any registry that was in use, whatever has happened since, and a code of its dictionary. The code was made for
a method that is there. A request with it calls that method, once, with its body, and nothing is forwarded.
But a point in the name of the server type, the service or the method makes a route of more than three
segments: such a request is dropped. -/
theorem advertised (settings : Settings) (valid : settings.validate = .ok settings) (serverType : String)
    (forwards : Queue Forward) (us : List (Switchboard.Use ε)) (capacity : Nat) (start : Hub ε)
    (begun : Hub.new settings (Switchboard.reached serverType forwards us).registry capacity = .ok start)
    (es : List (Event ε)) (id : Nat) (c : Connection)
    (found : (start.afterAll es).table.find? id = some c) (route : String) (code : Nat)
    (told : (start.afterAll es).registry.dictionary.code? route = some code) (request : UInt64)
    (answerable : request ≠ 0) (body : Bytes) :
    let h := start.afterAll es
    let next := h.process id ⟨.data, Message.codedRequest request code body⟩
    ∃ service method entry, h.registry.find? service method = some entry ∧
      let called : Route := ⟨serverType, service, method⟩
      called.text = route ∧
        (¬ called.Pointed →
          let asking := c.session.setPending request
          let run := (entry.method asking body).run asking
          next.2.calls = [⟨service, method, c.id, request, body, run.reports, run.panic⟩] ∧
            next.1.session? (.connected id) = some run.session ∧ next.1.forwards = h.forwards ∧
            next.2.levels = .trace :: .debug :: if run.panic.isSome then [.warn] else []) ∧
        (called.Pointed →
          next.2.calls = [] ∧ next.1.session? (.connected id) = some c.session ∧
            next.1.board = h.board ∧ next.2.levels = [.trace, .warn]) := by
  intro h next
  obtain ⟨inUse, agreed⟩ := inUse_afterAll begun es
  have typed : h.registry.serverType ≠ "" := by
    rw [inUse.serverType, agreed]
    exact Settings.serverType_ne valid
  obtain ⟨service, method, entry, known, named, pure, pointed⟩ :=
    Fate.of_codedRequest inUse.sound inUse.advertises typed told answerable body
  rw [inUse.serverType] at named pure pointed
  refine ⟨service, method, entry, known, named, ?_, ?_⟩
  · intro plain
    obtain ⟨done, ⟨forwarded, left⟩, board, session, traced⟩ := process_leaves found (pure plain)
    have here : (start.afterAll es).board.registry.find? service method = some entry := known
    simp only [here] at left
    obtain ⟨-, left, calls, levels⟩ := left
    refine ⟨?_, ?_, ?_, ?_⟩
    · exact (congrArg Trace.calls traced).trans calls
    · exact session.trans (congrArg some left)
    · exact (congrArg Switchboard.forwards board).trans forwarded
    · exact (congrArg Trace.levels traced).trans (congrArg (Level.trace :: ·) levels)
  · intro point
    obtain ⟨done, ⟨kept, left, calls, levels⟩, board, session, traced⟩ :=
      process_leaves found (pointed point)
    refine ⟨?_, ?_, board.trans kept, ?_⟩
    · exact (congrArg Trace.calls traced).trans calls
    · exact session.trans (congrArg some left)
    · exact (congrArg Trace.levels traced).trans (congrArg (Level.trace :: ·) levels)

/-- A client that is connected asks by code to join a room. -/
theorem advertised_of_join :
    let settings : Settings := { general := { serverType := "chat" } }
    let method : Method Unit := fun _ body => .respond body fun _ => .done
    let us := [.register "hall::Room" [⟨"Join", .handler method⟩]]
    let registry := (Switchboard.reached "chat" (.empty 1) us).registry
    settings.validate = .ok settings ∧ ∃ start, Hub.new settings registry 8 = .ok start ∧
      let h := start.afterAll [.connect 4 ⟨.v4 127 0 0 1, 3250⟩]
      h.registry.dictionary.code? "chat.Room.Join" = some 1 ∧
        ((h.process 1 ⟨.data, Message.codedRequest 7 1 [97]⟩).2.calls.map fun call =>
          (Route.text ⟨"chat", call.service, call.method⟩, call.pending, call.body)) =
            [("chat.Room.Join", 7, [97])] := by
  intro settings method us registry
  have plain : ∀ u ∈ us, u.Plain := by decide +kernel
  have listed : registry.pairs[0]? = some ("Room", "Join") := by decide +kernel
  have told := Switchboard.code?_of_pairs "chat" (.empty 1) plain listed (by decide)
  have here : registry.serverType = "chat" := (Switchboard.inUse_reached ..).serverType
  refine ⟨rfl, _, if_pos here, told, ?_⟩
  obtain ⟨service, method, entry, -, named, called, -⟩ :=
    advertised settings rfl "chat" (.empty 1) us 8 _ (if_pos here)
      [.connect 4 ⟨.v4 127 0 0 1, 3250⟩] 1 _ rfl "chat.Room.Join" 1 told 7 (by decide) [97]
  have same : (⟨"chat", service, method⟩ : Route).text = (⟨"chat", "Room", "Join"⟩ : Route).text :=
    named
  obtain ⟨calls, -⟩ := called (Route.not_pointed_of_text_eq same (by decide))
  rw [calls, List.map_singleton, named]

/-- The type of this node is two segments by itself, and what it advertises is dropped. -/
theorem advertised_dropped_of_point :
    let settings : Settings := { general := { serverType := "chat.eu" } }
    let method : Method Unit := fun _ body => .respond body fun _ => .done
    let us := [.register "hall::Room" [⟨"Join", .handler method⟩]]
    let registry := (Switchboard.reached "chat.eu" (.empty 1) us).registry
    settings.validate = .ok settings ∧ ∃ start, Hub.new settings registry 8 = .ok start ∧
      let h := start.afterAll [.connect 4 ⟨.v4 127 0 0 1, 3250⟩]
      h.registry.dictionary.code? "chat.eu.Room.Join" = some 1 ∧
        (h.process 1 ⟨.data, Message.codedRequest 7 1 [97]⟩).2.calls = [] := by
  intro settings method us registry
  have plain : ∀ u ∈ us, u.Plain := by decide +kernel
  have listed : registry.pairs[0]? = some ("Room", "Join") := by decide +kernel
  have told := Switchboard.code?_of_pairs "chat.eu" (.empty 1) plain listed (by decide)
  have here : registry.serverType = "chat.eu" := (Switchboard.inUse_reached ..).serverType
  refine ⟨rfl, _, if_pos here, ?_⟩
  intro h
  refine ⟨told, ?_⟩
  have read := Message.decode_codedRequest told 7 [97]
  have nowhere (route : Route) : ¬ (Message.request 7 "chat.eu.Room.Join" [97]).IsFor route := fun isFor =>
    Route.not_pointed_of_text_eq (r := ⟨"chat.eu", "Room", "Join"⟩) isFor.2 isFor.1 (by decide)
  have found : h.table.find? 1 = some (.new 1 4 ⟨.v4 127 0 0 1, 3250⟩ 0) := rfl
  have refused : Fate.Of h.registry (Message.codedRequest 7 1 [97])
      (.refused (.request 7 "chat.eu.Room.Join" [97])) := ⟨read, .inl nowhere⟩
  obtain ⟨done, ⟨-, -, calls, -⟩, -, -, traced⟩ := process_leaves found refused
  exact (congrArg Trace.calls traced).trans calls

end Hub

end Connector
