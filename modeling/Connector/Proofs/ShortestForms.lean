import Connector.Proofs.MessageFormat

/-! Of all octets that spell a message, those that are written for it are the shortest.

* `Varint.length_groups_le`: no number is spelled with fewer groups than are written for it;
* `Message.exists_routeField`: a route that was read can be written, in no more octets;
* `Message.exists_form`: so can a message, and reading it again gives the same;
* `Message.rewritten`: what is written for a message that was read is the one form of it, and the shortest. -/

namespace Connector

/-- Zeros on top of a number only make it longer. -/
theorem Varint.length_groups_le {field : Bytes} {v : Nat} (spells : Spells field v) :
    (groups v).length ≤ field.length := by
  induction spells with
  | last ends =>
      rw [groups, if_pos ends]
      exact Nat.le_refl 1
  | @group b later v goesOn rest ih =>
      rw [groups]
      split
      · simp
      · have upper : (b.toNat % 128 + 128 * v) / 128 = v := by omega
        rw [upper, List.length_cons, List.length_cons]
        exact Nat.succ_le_succ ih

namespace Message

variable {d : RouteDictionary} {m : Message} {octets field head : Bytes} {coded : Bool}

/-! ## Fields -/

theorem length_idField_le
    (written : if m.kind.hasId then Varint.Writes field m.id else field = [] ∧ m.id = 0) :
    m.idField.length ≤ field.length := by
  unfold idField
  cases carried : m.kind.hasId with
  | true =>
      rw [carried] at written
      exact Varint.length_groups_le written.1
  | false => exact Nat.zero_le _

theorem RouteField.short (text : RouteField d m.route false field) :
    m.route.utf8ByteSize ≤ maxRouteLength := by
  cases text with
  | @text length counts =>
      rw [← Bytes.length_ofString, ← counts]
      exact Nat.le_of_lt_succ length.toNat_lt

/-- A code takes two octets, and so does the text of any route but the empty one, at the least. -/
theorem RouteField.two_le_length (written : RouteField d m.route coded field) (named : m.route ≠ "") :
    2 ≤ field.length := by
  cases written with
  | code known => exact Nat.le_refl 2
  | text counts =>
      have size : m.route.utf8ByteSize ≠ 0 := by simpa using named
      rw [List.length_cons, Bytes.length_ofString]
      omega

theorem RouteField.exists_field (carried : m.kind.hasRoute = true)
    (written : RouteField d m.route coded field) :
    ∃ form, m.routeField (m.code? (some d)) = .ok form ∧
      (d.code? "" = none → form.length ≤ field.length) := by
  have looked : m.code? (some d) = d.code? m.route := by
    rw [code?, if_pos carried]
    rfl
  rw [looked]
  cases known : d.code? m.route with
  | some code =>
      refine ⟨codeField code, rfl, ?_⟩
      intro unnamed
      apply written.two_le_length
      intro empty
      rw [empty, unnamed] at known
      cases known
  | none =>
      rw [routeField, if_pos carried]
      cases written with
      | code found =>
          rw [(d.code?_eq_some_iff _ _).mpr found] at known
          cases known
      | text counts =>
          refine ⟨_, textField_of_short (RouteField.text (d := d) counts).short, ?_⟩
          intro _
          exact Nat.le_refl _

/-- What was read for the route of a message can be written for it, and the other way it is no longer. -/
theorem exists_routeField
    (written : if m.kind.hasRoute then RouteField d m.route coded field else field = [] ∧ m.route = "") :
    ∃ form, m.routeField (m.code? (some d)) = .ok form ∧
      (d.code? "" = none → form.length ≤ field.length) := by
  cases carried : m.kind.hasRoute with
  | true =>
      rw [carried] at written
      exact written.exists_field carried
  | false =>
      refine ⟨[], ?_, fun _ => Nat.zero_le _⟩
      simp [code?, routeField, carried]

/-! ## Messages -/

/-- A message has nothing to it that its head does not tell. -/
theorem Heads.normal_eq {number : Bytes → UInt64 → Prop} (h : Heads number d m head) : m.normal = m := by
  obtain ⟨_, _, _, -, -, hasId, hasRoute⟩ := h
  obtain ⟨kind, id, route, body⟩ := m
  cases kind with
  | request => rfl
  | notify | push =>
      obtain ⟨-, rfl⟩ := hasId
      rfl
  | response =>
      obtain ⟨-, rfl⟩ := hasRoute
      rfl

theorem exists_form (read : decode d octets = .ok m) :
    ∃ form, m.encode (some d) = .ok form ∧ decode d form = .ok m ∧
      (d.code? "" = none → form.length ≤ octets.length) := by
  obtain ⟨head, heads, rfl⟩ := decode_eq_ok_iff.mp read
  have normal := heads.normal_eq
  obtain ⟨flag, idField, routeField, rfl, -, hasId, hasRoute⟩ := heads
  obtain ⟨field, written, shorter⟩ := exists_routeField hasRoute
  have encoded := encode_of_field written
  have agrees : ∀ k, m.code? (some d) = some k → d.route? k = some m.route := by
    intro k found
    obtain ⟨-, _, same, code⟩ := code?_eq_some found
    cases same
    exact (d.code?_eq_some_iff m.route k).mp code
  refine ⟨_, encoded, ?_, ?_⟩
  · rw [decode_of_encode encoded agrees, normal]
  · intro unnamed
    have route := shorter unnamed
    have id := length_idField_le hasId
    simp only [List.length_cons, List.length_append]
    omega

/-- **A message that was read is written again, in one form and the shortest.** Writing it does not fail, and
reading it once more gives the message. Nothing that is read as this message is shorter, provided that the
empty route has no code: its text would take one octet, and a code takes two. What is read as another message
is written in another form. -/
theorem rewritten (d : RouteDictionary) (octets : Bytes) (m : Message) (read : decode d octets = .ok m) :
    ∃ form, m.encode (some d) = .ok form ∧ decode d form = .ok m ∧
      (d.code? "" = none →
        form.length ≤ octets.length ∧ ∀ other, decode d other = .ok m → form.length ≤ other.length) ∧
      ∀ other m', decode d other = .ok m' → (m' = m ↔ m'.encode (some d) = .ok form) := by
  obtain ⟨form, encoded, back, shorter⟩ := exists_form read
  refine ⟨form, encoded, back, ?_, ?_⟩
  · intro unnamed
    refine ⟨shorter unnamed, ?_⟩
    intro other read'
    obtain ⟨form', encoded', -, shorter'⟩ := exists_form read'
    rw [encoded] at encoded'
    cases encoded'
    exact shorter' unnamed
  · intro other m' read'
    constructor
    · rintro rfl
      exact encoded
    · intro same
      obtain ⟨form', encoded', back', -⟩ := exists_form read'
      rw [same] at encoded'
      cases encoded'
      rw [back] at back'
      cases back'
      rfl

/-- A request with unused bits set, zeros on top of its id and a route as text that has a code. -/
theorem rewritten_of_request :
    let d := RouteDictionary.empty.insertAll ["a.B.C"]
    let octets : Bytes := [0xf0, 0x87, 0x80, 0, 5, 97, 46, 66, 46, 67, 1]
    decode d octets = .ok (.request 7 "a.B.C" [1]) ∧ d.code? "" = none ∧
      decode d [1, 7, 0, 1, 1] = .ok (.request 7 "a.B.C" [1]) ∧
      ∀ other, decode d other = .ok (.request 7 "a.B.C" [1]) → 5 ≤ other.length := by
  intro d octets
  have held : d.routes.toList = ["a.B.C"] := RouteDictionary.routes_insertAll (by decide)
  have coded : d.code? "a.B.C" = some 1 := (d.code?_succ_eq_some_iff _ 0).mpr (by rw [held]; rfl)
  have unnamed : d.code? "" = none := (d.code?_eq_none_iff "").mpr (by rw [held]; decide)
  have read : decode d octets = .ok (.request 7 "a.B.C" [1]) := by rfl
  have looked : (Message.request 7 "a.B.C" [1]).code? (some d) = some 1 := coded
  have written : (Message.request 7 "a.B.C" [1]).encode (some d) = .ok [1, 7, 0, 1, 1] := by
    rw [encode_of_field (by rw [looked]; rfl), looked]
    exact congrArg Except.ok (by decide +kernel)
  obtain ⟨form, encoded, back, shortest, -⟩ := rewritten d octets _ read
  rw [written] at encoded
  cases encoded
  exact ⟨read, unnamed, back, (shortest unnamed).2⟩

end Message

end Connector
