import Connector.Proofs.ByteOrder
import Connector.Proofs.Registries

/-! Codes on which all nodes of one server type agree.

* `Switchboard.paired`: the methods that some registrations bring in, each with its service, in order;
* `Switchboard.dictionary_useAll`: the dictionary depends on them alone;
* `Switchboard.paired_congr`: the methods depend on the names that can be called, however they are listed;
* `Switchboard.codes_agree`: so nodes with the same services give the same codes. -/

namespace Connector

/-! ## Routes -/

namespace Registry

variable {μ : Type}

/-- The route of a method under which it can be called from outside. -/
def routeOf (serverType : String) (pair : String × String) : Route := ⟨serverType, pair.1, pair.2⟩

theorem routeOf_text_inj {serverType : String} {a b : String × String} (pure : '.' ∉ a.1.toList)
    (pure' : '.' ∉ b.1.toList) (same : (routeOf serverType a).text = (routeOf serverType b).text) :
    a = b := by
  have rest : a.1 ++ "." ++ a.2 = b.1 ++ "." ++ b.2 := by
    have chars := congrArg String.toList same
    rw [Route.toList_text, Route.toList_text] at chars
    obtain ⟨-, rest⟩ := List.cons.inj (List.append_cancel_left chars)
    rw [← String.toList_inj]
    simpa [routeOf] using rest
  obtain ⟨first, second⟩ := Route.join_inj pure pure' rest
  exact Prod.ext first second

theorem Sound.nodup_pairs {r : Registry μ} (sound : r.Sound) : r.pairs.Nodup := by
  rw [pairs, List.nodup_iff_pairwise_ne, List.pairwise_flatMap]
  constructor
  · intro line mem
    refine List.pairwise_map.mpr ((sound.lines line mem).inOrder.imp fun less same => ?_)
    rw [(Prod.mk.inj same).2] at less
    exact String.lt_irrefl _ less
  · refine (List.pairwise_map.mp sound.distinct).imp fun other a mem b mem' same => ?_
    obtain ⟨_, -, rfl⟩ := List.mem_map.mp mem
    obtain ⟨_, -, rfl⟩ := List.mem_map.mp mem'
    exact other (Prod.mk.inj same).1

end Registry

namespace Switchboard

variable {ε δ : Type}

/-! ## Pairs -/

/-- The methods that registrations bring in, each with its service. -/
def paired (entries : List (String × List (Candidate (Method ε)))) : List (String × String) :=
  entries.flatMap fun entry => (Candidate.names entry.2).map (serviceName entry.1, ·)

theorem pairs_useAll (b : Switchboard ε) (us : List (Use ε)) :
    (b.useAll us).registry.pairs = b.registry.pairs ++ paired (b.entered us) := by
  rw [Registry.pairs, outline_useAll, List.flatMap_append, List.flatMap_map]
  rfl

/-- The same services in the same order, each with the same names that can be called. -/
inductive Agree : List (String × List (Candidate (Method ε))) →
    List (String × List (Candidate (Method δ))) → Prop
  | nil : Agree [] []
  | cons {typeName typeName' : String} {candidates : List (Candidate (Method ε))}
      {candidates' : List (Candidate (Method δ))} {rest rest'}
      (service : serviceName typeName = serviceName typeName')
      (offered : ∀ name, Candidate.Offered candidates name ↔ Candidate.Offered candidates' name)
      (later : Agree rest rest') : Agree ((typeName, candidates) :: rest) ((typeName', candidates') :: rest')

theorem paired_congr {entries : List (String × List (Candidate (Method ε)))}
    {others : List (String × List (Candidate (Method δ)))} (agree : Agree entries others) :
    paired entries = paired others := by
  induction agree with
  | nil => rfl
  | cons service offered _ ih =>
      rw [paired, List.flatMap_cons, Candidate.names_congr offered, service]
      exact congrArg (_ ++ ·) ih

/-! ## The dictionary -/

theorem dictionary_use (b : Switchboard ε) (u : Use ε) :
    (b.use u).registry.dictionary = b.registry.dictionary.insertAll
      ((paired (b.addition? u).toList).map fun p => (Registry.routeOf b.registry.serverType p).text) := by
  cases u with
  | dispatch s route body => exact (b.counted_dispatch s route body).dictionary
  | register typeName candidates =>
      rw [registry_register]
      rcases b.registry.register_cases typeName candidates with
        ⟨e, refused, same, -⟩ | ⟨accepted, -, joined⟩
      · simp only [addition?, refused, same, Option.toList_none, paired, List.flatMap_nil, List.map_nil]
        rfl
      · simp only [addition?, accepted, joined, Option.toList_some, paired, List.flatMap_cons,
          List.flatMap_nil, List.append_nil, List.map_map]
        rfl

/-- Nothing but the methods that came in decides about the dictionary. -/
theorem dictionary_useAll (b : Switchboard ε) (us : List (Use ε)) :
    (b.useAll us).registry.dictionary = b.registry.dictionary.insertAll
      ((paired (b.entered us)).map fun p => (Registry.routeOf b.registry.serverType p).text) := by
  induction us generalizing b with
  | nil => rfl
  | cons u us ih =>
      have later := ih (b.use u)
      rw [dictionary_use, (b.move_use u).serverType, ← RouteDictionary.insertAll_append,
        ← List.map_append] at later
      rw [entered, paired, List.flatMap_append]
      exact later

theorem pairs_reached (serverType : String) (forwards : Queue Forward) (us : List (Use ε)) :
    (reached serverType forwards us).registry.pairs =
      paired ((Switchboard.mk (.empty serverType) forwards).entered us) := pairs_useAll _ us

theorem dictionary_reached (serverType : String) (forwards : Queue Forward) (us : List (Use ε)) :
    (reached serverType forwards us).registry.dictionary = RouteDictionary.empty.insertAll
      ((reached serverType forwards us).registry.pairs.map fun p =>
        (Registry.routeOf serverType p).text) := by
  rw [pairs_reached]
  exact dictionary_useAll _ us

/-- The routes stand in the order of the methods, as long as there are codes. -/
theorem routes_reached (serverType : String) (forwards : Queue Forward) {us : List (Use ε)}
    (plain : ∀ u ∈ us, u.Plain) :
    (reached serverType forwards us).registry.dictionary.routes.toList =
      ((reached serverType forwards us).registry.pairs.take RouteDictionary.maxCode).map fun p =>
        (Registry.routeOf serverType p).text := by
  have pure := plain_reached serverType forwards plain
  have sound := sound_reached serverType forwards us
  rw [dictionary_reached, List.map_take]
  generalize (reached serverType forwards us).registry = r at pure sound ⊢
  have distinct : (r.pairs.map fun p => (Registry.routeOf serverType p).text).Nodup := by
    refine List.pairwise_map.mpr (sound.nodup_pairs.imp_of_mem ?_)
    intro a b mem mem' other same
    refine other (Registry.routeOf_text_inj ?_ ?_ same)
    · exact Registry.plain_of_mem_pairs pure mem
    · exact Registry.plain_of_mem_pairs pure mem'
  exact RouteDictionary.routes_insertAll distinct

/-- A code tells the place of a method. -/
theorem code?_reached (serverType : String) (forwards : Queue Forward) {us : List (Use ε)}
    (plain : ∀ u ∈ us, u.Plain) (route : String) (k : Nat) :
    (reached serverType forwards us).registry.dictionary.code? route = some (k + 1) ↔
      ∃ pair, ((reached serverType forwards us).registry.pairs.take RouteDictionary.maxCode)[k]? =
        some pair ∧ (Registry.routeOf serverType pair).text = route := by
  rw [RouteDictionary.code?_succ_eq_some_iff, routes_reached serverType forwards plain,
    List.getElem?_map, Option.map_eq_some_iff]

theorem code?_of_pairs (serverType : String) (forwards : Queue Forward) {us : List (Use ε)}
    (plain : ∀ u ∈ us, u.Plain) {k : Nat} {pair : String × String}
    (listed : (reached serverType forwards us).registry.pairs[k]? = some pair)
    (fits : k < RouteDictionary.maxCode) :
    (reached serverType forwards us).registry.dictionary.code? (Registry.routeOf serverType pair).text =
      some (k + 1) := by
  refine (code?_reached serverType forwards plain _ k).mpr ⟨pair, ?_, rfl⟩
  rwa [List.getElem?_take_of_lt fits]

/-- **All nodes of a server type agree on the codes.** The codes follow the methods that can be called:
services in the order of their registration, the methods of each in byte order of their names, as far as
there are codes. No other route has one. So wherever the same services come in, with the same names that can
be called, the dictionaries are the same, whatever else was listed or tried. -/
theorem codes_agree (serverType : String) (forwards : Queue Forward) (us : List (Use ε))
    (plain : ∀ u ∈ us, u.Plain) :
    let start : Switchboard ε := ⟨.empty serverType, forwards⟩
    let dictionary := (start.useAll us).registry.dictionary
    let coded := (paired (start.entered us)).take 65535
    (∀ candidates : List (Candidate (Method ε)),
      (Candidate.names candidates).Pairwise
        (fun a b => (Bytes.ofString a).Before (Bytes.ofString b)) ∧
      ∀ name, name ∈ Candidate.names candidates ↔ Candidate.Offered candidates name) ∧
    (∀ route code, dictionary.code? route = some code ↔ ∃ k service method, code = k + 1 ∧
      coded[k]? = some (service, method) ∧ route = serverType ++ "." ++ service ++ "." ++ method) ∧
    ∀ (forwards' : Queue Forward) (us' : List (Use δ)),
      let other : Switchboard δ := ⟨.empty serverType, forwards'⟩
      Agree (start.entered us) (other.entered us') →
        (other.useAll us').registry.dictionary = dictionary := by
  intro start dictionary coded
  refine ⟨?_, ?_, ?_⟩
  · intro candidates
    exact ⟨(Candidate.pairwise_names candidates).imp Bytes.before_ofString,
      Candidate.mem_names_iff candidates⟩
  · intro route code
    have places := code?_reached serverType forwards plain route
    rw [pairs_reached] at places
    constructor
    · intro given
      obtain ⟨k, rfl⟩ := Nat.exists_eq_add_one.mpr (RouteDictionary.code_bounds given).1
      obtain ⟨⟨service, method⟩, listed, rfl⟩ := (places k).mp given
      exact ⟨k, service, method, rfl, listed, rfl⟩
    · rintro ⟨k, service, method, rfl, listed, rfl⟩
      exact (places k).mpr ⟨(service, method), listed, rfl⟩
  · intro forwards' us' other agree
    have known := dictionary_useAll other us'
    rw [← paired_congr agree] at known
    exact known.trans (dictionary_useAll start us).symm

/-- A node that lists its method among others, and fails to register once more. -/
theorem codes_agree_of_room :
    let method : Method Unit := fun _ body => .respond body fun _ => .done
    let join : Candidate (Method Unit) := ⟨"Join", .handler method⟩
    let joining := [⟨"Kick", .exclusive⟩, join, ⟨"hide", .handler method⟩]
    let us := [.register "hall::Room" [join]]
    let us' := [.register "Room" joining, .register "inn::Room<u8>" [⟨"Add", .handler method⟩]]
    let here : Switchboard Unit := ⟨.empty "chat", .empty 1⟩
    let there : Switchboard Unit := ⟨.empty "chat", .empty 9⟩
    (∀ u ∈ us, u.Plain) ∧
      Agree (here.entered us) (there.entered us') ∧
      (here.useAll us).registry.dictionary.code? "chat.Room.Join" = some 1 ∧
      (there.useAll us').registry.dictionary.code? "chat.Room.Join" = some 1 := by
  intro method join joining us us' here there
  have plain : ∀ u ∈ us, u.Plain := by decide +kernel
  have alone : here.entered us = [("hall::Room", [join])] := by
    rw [entered, addition?_of_isSome (by decide +kernel)]
    rfl
  have refused : (there.use (.register "Room" joining)).addition?
      (.register "inn::Room<u8>" [⟨"Add", .handler method⟩]) = none :=
    Option.isNone_iff_eq_none.mp (by decide +kernel)
  have first : there.entered us' = [("Room", joining)] := by
    rw [entered, addition?_of_isSome (by decide +kernel), entered, refused]
    rfl
  have agree : Agree (here.entered us) (there.entered us') := by
    rw [alone, first]
    refine .cons (by decide +kernel) ?_ .nil
    have shown : isExported "Join" = true := by decide +kernel
    have hidden : isExported "hide" = false := by decide +kernel
    intro name
    simp [joining, join, Candidate.Offered, Candidate.Offers, Candidate.exported, shown, hidden]
  have listed : (paired (here.entered us))[0]? = some ("Room", "Join") := by decide +kernel
  obtain ⟨-, codes, same⟩ := codes_agree (δ := Unit) "chat" (.empty 1) us plain
  have code : (here.useAll us).registry.dictionary.code? "chat.Room.Join" = some 1 :=
    (codes _ _).mpr ⟨0, "Room", "Join", rfl, by rwa [List.getElem?_take_of_lt (by decide)], rfl⟩
  refine ⟨plain, agree, code, ?_⟩
  rw [same (.empty 9) us' agree]
  exact code

end Switchboard

end Connector
