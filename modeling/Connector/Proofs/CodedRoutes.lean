import Connector.Proofs.Histories
import Connector.Proofs.MessageRoundTrip
import Connector.Proofs.Processing

/-! Routes by code and routes in full. A handshake tells a client the codes, and the client may use them
from then on.

* `Message.reads_alike`: a message with a code of an earlier dictionary reads as it does with the route
  in full;
* `Hub.coded_as_plain`: and whatever became of the hub since, it does the same. -/

namespace Connector

variable {ε : Type}

/-- Both forms of a message with a short route are there, and under a dictionary that has grown since they
are one message. -/
theorem Message.reads_alike {told later : RouteDictionary} (grows : told.Grows later) {m : Message}
    (short : m.route.utf8ByteSize ≤ maxRouteLength) :
    ∃ coded plain, m.encode (some told) = .ok coded ∧ m.encode none = .ok plain ∧
      decode later coded = .ok m.normal ∧ decode later plain = .ok m.normal := by
  have written (known : Option RouteDictionary) : ∃ octets, m.encode known = .ok octets := by
    cases h : m.encode known with
    | ok octets => exact ⟨octets, rfl⟩
    | error e =>
        obtain ⟨-, -, long⟩ := (encode_fails_iff m known).mp ⟨e, h⟩
        omega
  obtain ⟨coded, byCode⟩ := written (some told)
  obtain ⟨plain, inFull⟩ := written none
  refine ⟨coded, plain, byCode, inFull, decode_of_encode byCode ?_, decode_of_encode_none inFull later⟩
  intro k found
  obtain ⟨-, d, same, code⟩ := code?_eq_some found
  cases same
  exact grows.route? ((told.code?_eq_some_iff m.route k).mp code)

theorem Connection.processData_congr (board : Switchboard ε) (c : Connection) {first second : Bytes}
    (alike : Message.decode board.registry.dictionary first =
      Message.decode board.registry.dictionary second) :
    c.processData board first = c.processData board second := by
  unfold processData
  rw [alike]

namespace Hub

/-- **A route by its code is as good as the route in full.** The dictionary is the one that a handshake
tells the client. Whatever the application and all clients do afterwards, no route that was told loses its
code, and a message whose route is short has both forms, which have the same effect on the hub and are
traced alike but for the line that tells the length of the packet. -/
theorem coded_as_plain (h : Hub ε) (acts : List (Act ε)) (m : Message)
    (short : m.route.utf8ByteSize ≤ 255) :
    let told := h.registry.dictionary
    let later := h.actAll acts
    (∀ id c body, h.table.find? id = some c → c.status ≠ .closed →
      (h.process id ⟨.handshake, body⟩).1.session? (.connected id) =
        some (c.session.sendPacket
          ⟨.handshake, Bytes.ofString (handshakeText h.settings.heartbeat.interval told)⟩).1) ∧
    (∀ route code, told.code? route = some code → later.registry.dictionary.code? route = some code) ∧
    ∃ coded plain, m.encode (some told) = .ok coded ∧ m.encode none = .ok plain ∧
      ∀ id,
        let byCode := later.process id ⟨.data, coded⟩
        let inFull := later.process id ⟨.data, plain⟩
        let begun (body : Bytes) := ((later.table.find? id).map (·.beginLog ⟨.data, body⟩)).toList
        byCode.1 = inFull.1 ∧ byCode.2.calls = inFull.2.calls ∧
          ∃ logs, byCode.2.logs = begun coded ++ logs ∧ inFull.2.logs = begun plain ++ logs := by
  intro told later
  have grows : told.Grows later.registry.dictionary := h.actAll_grows acts
  refine ⟨?_, ?_, ?_⟩
  · intro id c body found isOpen
    have shaken : c.processKind h.board h.settings.heartbeat.interval h.now ⟨.handshake, body⟩ =
        c.processHandshake h.board h.settings.heartbeat.interval := rfl
    rw [process_of_found found, shaken, session?_keep found (Connection.id_processHandshake ..),
      if_pos rfl, Connection.processHandshake_of_open _ _ isOpen]
    rfl
  · intro route code known
    exact grows.code? known
  · obtain ⟨coded, plain, byCode, inFull, readCoded, readPlain⟩ := Message.reads_alike grows short
    refine ⟨coded, plain, byCode, inFull, ?_⟩
    intro id
    cases found : later.table.find? id with
    | none =>
        rw [process_of_unknown found, process_of_unknown found]
        exact ⟨rfl, rfl, [], rfl, rfl⟩
    | some c =>
        have alike : (c.hear later.now).processData later.board coded =
            (c.hear later.now).processData later.board plain :=
          Connection.processData_congr _ _ (readCoded.trans readPlain.symm)
        rw [process_of_found found, process_of_found found]
        simp only [Connection.processKind, alike, Trace.calls_log_append, Trace.logs_log_append,
          true_and]
        exact ⟨_, rfl, rfl⟩

/-- The code of a route that was told outlives a registration in between, and leads to the same handler. -/
theorem coded_as_plain_of_join :
    let join : Entry (Method Unit) := ⟨"Join", fun _ body => .respond body fun _ => .done, 0⟩
    let told := (RouteDictionary.empty.insert "chat.Room.Join").1
    let registry : Registry (Method Unit) := ⟨"chat", [⟨"Room", "Room", [join]⟩], told⟩
    let h : Hub Unit := ⟨{}, ⟨registry, .empty 1⟩, .empty, [], 0⟩
    let later := h.actAll [.event (.connect 1 ⟨.v4 127 0 0 1, 3250⟩), .event (.register "Hall" [])]
    let m := Message.request 7 "chat.Room.Join" [1]
    m.route.utf8ByteSize ≤ 255 ∧ told.code? m.route = some 1 ∧
      ∃ coded plain, m.encode (some told) = .ok coded ∧ m.encode none = .ok plain ∧
        (later.process 1 ⟨.data, coded⟩).1 = (later.process 1 ⟨.data, plain⟩).1 ∧
        (later.process 1 ⟨.data, coded⟩).2.calls.map (fun call => (call.method, call.pending, call.body)) =
          [("Join", 7, [1])] := by
  intro join told registry h later m
  have short : m.route.utf8ByteSize ≤ 255 := by decide
  obtain ⟨-, -, coded, plain, byCode, inFull, same⟩ := coded_as_plain h _ m short
  have known : told.code? m.route = some 1 := by
    have held : told.routes.toList = [m.route] :=
      RouteDictionary.routes_insert_of_not_mem (d := .empty) List.not_mem_nil
    rw [RouteDictionary.code?_eq_some_iff, RouteDictionary.route?, ← Array.getElem?_toList, held]
    rfl
  have written : (m.encode none).toOption =
      some [0, 7, 14, 99, 104, 97, 116, 46, 82, 111, 111, 109, 46, 74, 111, 105, 110, 1] := by
    decide +kernel
  obtain rfl := Option.some.inj ((congrArg Except.toOption inFull).symm.trans written)
  refine ⟨short, known, coded, _, byCode, inFull, (same 1).1, ?_⟩
  refine (congrArg (List.map _) (same 1).2.1).trans ?_
  decide +kernel

end Hub

end Connector
