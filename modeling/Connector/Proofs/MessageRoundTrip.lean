import Connector.Message.Codec
import Connector.Proofs.RouteCodes

/-! Messages come back from their wire form.

* `Varint.decode_encode_append`: a number in front of anything is read back;
* `Message.takeRoute_field`: so is a route, as a code or as text;
* `Message.decode_encode`: so is a message, but for the fields that its kind does not carry. -/

namespace Connector

/-! ## Numbers -/

theorem Varint.read_groups_append {k n : Nat} (h : n < Nat.pow 128 (k + 1)) (rest : Bytes) :
    read (k + 1) (groups n ++ rest) = some (n, rest) := by
  induction k generalizing n with
  | zero =>
      have small : n < 128 := h
      rw [groups, if_pos small, List.singleton_append, read, UInt8.toNat_ofNat',
        Nat.mod_eq_of_lt (by omega), if_pos small]
  | succ k ih =>
      by_cases small : n < 128
      · rw [groups, if_pos small, List.singleton_append, read, UInt8.toNat_ofNat',
          Nat.mod_eq_of_lt (by omega), if_pos small]
      · have high : n / 128 < Nat.pow 128 (k + 1) := by
          rw [Nat.div_lt_iff_lt_mul (by omega)]
          exact h
        have octet : (UInt8.ofNat (n % 128 + 128)).toNat = n % 128 + 128 := by
          rw [UInt8.toNat_ofNat']
          omega
        rw [groups, if_neg small, List.cons_append, read, octet, if_neg (by omega), ih high,
          Option.map_some]
        simp only [Option.some.injEq, Prod.mk.injEq, and_true]
        omega

theorem Varint.decode_encode_append (v : UInt64) (rest : Bytes) :
    decode (encode v ++ rest) = some (v, rest) := by
  have bound : v.toNat < 0x10000000000000000 := v.toNat_lt
  have ten : 0x10000000000000000 ≤ Nat.pow 128 (9 + 1) := by decide
  have back : read maxGroups (groups v.toNat ++ rest) = some (v.toNat, rest) :=
    read_groups_append (Nat.lt_of_lt_of_le bound ten) rest
  rw [decode, encode, back]
  simp only [bound, if_true, UInt64.ofNat_toNat]

/-! ## Text -/

theorem Utf8.decode_ofString (s : String) : Utf8.decode (Bytes.ofString s) = .ok s := by
  have back : String.fromUTF8? ⟨(Bytes.ofString s).toArray⟩ = some s := by
    rw [Bytes.ofString, Array.toArray_toList]
    exact dif_pos s.isValidUTF8
  rw [Utf8.decode, back]

theorem Bytes.length_ofString (s : String) : (Bytes.ofString s).length = s.utf8ByteSize := rfl

namespace Message

/-! ## Fields -/

theorem takeKind_flag (kind : MessageKind) (coded : Bool) : takeKind (flag kind coded) = .ok kind := by
  cases kind <;> cases coded <;> rfl

theorem flag_coded (kind : MessageKind) (coded : Bool) :
    ((flag kind coded).toNat % 2 == 1) = coded := by
  cases kind <;> cases coded <;> rfl

theorem takeId_encode (id : UInt64) (rest : Bytes) :
    takeId (Varint.encode id ++ rest) = .ok (id, rest) := by
  rw [takeId, Varint.decode_encode_append]

theorem takeCode_codeField {d : RouteDictionary} {route : String} {code : Nat}
    (bound : code ≤ RouteDictionary.maxCode) (known : d.route? code = some route) (rest : Bytes) :
    takeCode d (codeField code ++ rest) = .ok (route, rest) := by
  have back : (UInt8.ofNat (code / 256)).toNat * 256 + (UInt8.ofNat code).toNat = code := by
    rw [RouteDictionary.maxCode] at bound
    rw [UInt8.toNat_ofNat', UInt8.toNat_ofNat']
    omega
  rw [codeField, List.cons_append, List.singleton_append, takeCode]
  simp only [back, known]

theorem textField_of_short {route : String} (short : route.utf8ByteSize ≤ maxRouteLength) :
    textField route = .ok (UInt8.ofNat (Bytes.ofString route).length :: Bytes.ofString route) := by
  have fits : ¬ maxRouteLength < (Bytes.ofString route).length := by
    rw [Bytes.length_ofString]
    omega
  simp only [textField, if_neg fits]

theorem textField_of_long {route : String} (long : maxRouteLength < route.utf8ByteSize) :
    textField route = .error ⟨route⟩ := by
  rw [← Bytes.length_ofString] at long
  simp only [textField, if_pos long]

theorem takeText_textField {route : String} {field : Bytes} (written : textField route = .ok field)
    (rest : Bytes) : takeText (field ++ rest) = .ok (route, rest) := by
  by_cases short : route.utf8ByteSize ≤ maxRouteLength
  · rw [textField_of_short short] at written
    cases written
    rw [← Bytes.length_ofString, maxRouteLength] at short
    have length :
        (UInt8.ofNat (Bytes.ofString route).length).toNat = (Bytes.ofString route).length := by
      rw [UInt8.toNat_ofNat']
      omega
    have whole : Bytes.reaches (Bytes.ofString route).length (Bytes.ofString route ++ rest) = true := by
      rw [Bytes.reaches_iff, List.length_append]
      omega
    rw [List.cons_append, takeText, length, if_pos whole, List.take_left, List.drop_left,
      Utf8.decode_ofString]
  · rw [textField_of_long (by omega)] at written
    cases written

/-- A route is read back under every dictionary that has the code, if one was written. -/
theorem takeRoute_field {d : RouteDictionary} {m : Message} {code : Option Nat} {field : Bytes}
    (written : m.routeField code = .ok field) (carried : m.kind.hasRoute = true)
    (known : ∀ k, code = some k → k ≤ RouteDictionary.maxCode ∧ d.route? k = some m.route)
    (rest : Bytes) :
    takeRoute d code.isSome (field ++ rest) = .ok (m.route, rest) := by
  cases code with
  | some k =>
      obtain ⟨bound, found⟩ := known k rfl
      cases written
      exact takeCode_codeField bound found rest
  | none =>
      rw [routeField, if_pos carried] at written
      exact takeText_textField written rest

/-! ## Messages -/

/-- The fields of a message one after another, as its kind has them. -/
theorem decode_cons (d : RouteDictionary) {flag : UInt8} {kind : MessageKind}
    (known : takeKind flag = .ok kind) (rest : Bytes) :
    decode d (flag :: rest) =
      (if kind.hasId then takeId rest else .ok (0, rest)).bind fun (id, rest) =>
        (if kind.hasRoute then takeRoute d (flag.toNat % 2 == 1) rest else .ok ("", rest)).bind
          fun (route, body) => .ok ⟨kind, id, route, body⟩ := by
  rw [decode, known]
  cases kind <;> rfl

theorem code?_eq_some {m : Message} {known : Option RouteDictionary} {k : Nat}
    (h : m.code? known = some k) :
    m.kind.hasRoute = true ∧ ∃ d, known = some d ∧ d.code? m.route = some k := by
  unfold code? at h
  split at h
  · next carried =>
      obtain ⟨d, rfl, found⟩ := Option.bind_eq_some_iff.mp h
      exact ⟨carried, d, rfl, found⟩
  · cases h

theorem encode_of_field {m : Message} {known : Option RouteDictionary} {field : Bytes}
    (h : m.routeField (m.code? known) = .ok field) :
    m.encode known = .ok (flag m.kind (m.code? known).isSome :: (m.idField ++ field ++ m.body)) := by
  simp only [encode, h]

theorem encode_of_error {m : Message} {known : Option RouteDictionary} {e : RouteTooLong}
    (h : m.routeField (m.code? known) = .error e) : m.encode known = .error e := by
  simp only [encode, h]

/-- Only a route as text can be too long. -/
theorem routeField_fails_iff (m : Message) (code : Option Nat) :
    (∃ e, m.routeField code = .error e) ↔
      m.kind.hasRoute = true ∧ code = none ∧ maxRouteLength < m.route.utf8ByteSize := by
  cases code with
  | some k =>
      constructor
      · rintro ⟨e, h⟩
        cases h
      · rintro ⟨-, h, -⟩
        cases h
  | none =>
      cases carried : m.kind.hasRoute with
      | false =>
          constructor
          · rintro ⟨e, h⟩
            rw [routeField, carried] at h
            cases h
          · rintro ⟨h, -⟩
            cases h
      | true =>
          have field : m.routeField none = textField m.route := by rw [routeField, if_pos carried]
          rw [field]
          constructor
          · rintro ⟨e, h⟩
            refine ⟨rfl, rfl, Nat.lt_of_not_le fun short => ?_⟩
            rw [textField_of_short short] at h
            cases h
          · rintro ⟨-, -, long⟩
            exact ⟨_, textField_of_long long⟩

theorem encode_fails_iff (m : Message) (known : Option RouteDictionary) :
    (∃ e, m.encode known = .error e) ↔
      m.kind.hasRoute = true ∧ known.bind (·.code? m.route) = none ∧
        maxRouteLength < m.route.utf8ByteSize := by
  have same : (∃ e, m.encode known = .error e) ↔ ∃ e, m.routeField (m.code? known) = .error e := by
    cases h : m.routeField (m.code? known) with
    | ok field => rw [encode_of_field h]; simp
    | error e => rw [encode_of_error h]
  rw [same, routeField_fails_iff]
  refine and_congr_right fun carried => ?_
  rw [code?, if_pos carried]

theorem takeId_idField (m : Message) (rest : Bytes) :
    (if m.kind.hasId then takeId (m.idField ++ rest) else .ok (0, m.idField ++ rest)) =
      .ok (m.normal.id, rest) := by
  unfold idField normal
  cases m.kind.hasId with
  | true => exact takeId_encode m.id rest
  | false => rfl

theorem takeRoute_routeField {m : Message} {d : RouteDictionary} {code : Option Nat} {field : Bytes}
    (written : m.routeField code = .ok field) (carried : ∀ k, code = some k → m.kind.hasRoute = true)
    (known : ∀ k, code = some k → k ≤ RouteDictionary.maxCode ∧ d.route? k = some m.route)
    (rest : Bytes) :
    (if m.kind.hasRoute then takeRoute d code.isSome (field ++ rest) else .ok ("", field ++ rest)) =
      .ok (m.normal.route, rest) := by
  unfold normal
  cases has : m.kind.hasRoute with
  | true => exact takeRoute_field written has known rest
  | false =>
      cases code with
      | some k =>
          rw [has] at carried
          cases carried k rfl
      | none =>
          rw [routeField, has] at written
          cases written
          rfl

/-- A message is read back under every dictionary that agrees on the code, if one was written. -/
theorem decode_of_encode {m : Message} {known : Option RouteDictionary} {octets : Bytes}
    (written : m.encode known = .ok octets) {d : RouteDictionary}
    (agrees : ∀ k, m.code? known = some k → d.route? k = some m.route) :
    decode d octets = .ok m.normal := by
  cases h : m.routeField (m.code? known) with
  | error e =>
      rw [encode_of_error h] at written
      cases written
  | ok field =>
      rw [encode_of_field h] at written
      cases written
      have bounded : ∀ k, m.code? known = some k →
          k ≤ RouteDictionary.maxCode ∧ d.route? k = some m.route := by
        intro k found
        obtain ⟨-, _, -, code⟩ := code?_eq_some found
        exact ⟨(RouteDictionary.code_bounds code).2, agrees k found⟩
      rw [decode_cons d (takeKind_flag m.kind _), flag_coded, List.append_assoc, takeId_idField]
      simp only [Except.bind]
      rw [takeRoute_routeField h (fun k found => (code?_eq_some found).1) bounded]
      rfl

/-- What was written without a dictionary is read back under any. -/
theorem decode_of_encode_none {m : Message} {octets : Bytes} (written : m.encode none = .ok octets)
    (d : RouteDictionary) : decode d octets = .ok m.normal := by
  refine decode_of_encode written ?_
  intro k found
  obtain ⟨-, d', none, -⟩ := code?_eq_some found
  cases none

/-- **Reading a message undoes writing it.** A message has no wire form just when it carries a route
that has no code and is longer than one octet can count. Any wire form gives the message back, with
the fields that its kind does not carry reset: under the dictionary that it was written with and all
that grow from it, and under every dictionary if no code was looked up or found. -/
theorem decode_encode (m : Message) (known : Option RouteDictionary) :
    ((∃ e, m.encode known = .error e) ↔
      m.kind.hasRoute = true ∧ known.bind (·.code? m.route) = none ∧ 255 < m.route.utf8ByteSize) ∧
    ∀ octets, m.encode known = .ok octets →
      (∀ d, known = some d → decode d octets = .ok m.normal ∧
        ∀ routes, decode (d.insertAll routes) octets = .ok m.normal) ∧
      (known.bind (·.code? m.route) = none → ∀ d, decode d octets = .ok m.normal) := by
  refine ⟨encode_fails_iff m known, ?_⟩
  intro octets written
  constructor
  · rintro d rfl
    have agrees : ∀ k, m.code? (some d) = some k → d.route? k = some m.route := by
      intro k found
      obtain ⟨-, _, same, code⟩ := code?_eq_some found
      cases same
      exact (d.code?_eq_some_iff m.route k).mp code
    refine ⟨decode_of_encode written agrees, fun routes => decode_of_encode written ?_⟩
    intro k found
    exact RouteDictionary.route?_insertAll (agrees k found) routes
  · intro bare d
    refine decode_of_encode written ?_
    intro k found
    obtain ⟨-, d', rfl, code⟩ := code?_eq_some found
    rw [Option.bind_some, code] at bare
    cases bare

end Message

end Connector
