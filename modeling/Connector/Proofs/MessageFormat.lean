import Connector.Proofs.MessageRoundTrip

/-! The grammar of messages, and `decode` as its reader.

* `Varint.Spells`, `Varint.decode_eq_some_iff`: numbers in groups of seven bits;
* `Message.Heads`, `Message.Spelled`: the octets in front of a body, and those of a whole message;
* `Message.decode_eq_ok_iff`: a message is read just from the octets that spell it;
* `Message.decodeByOffset`, `Message.decodeByOffset_eq`: read by offsets, no offset lies behind the end;
* `Message.decode_format`: so `decode` answers by the grammar alone;
* `Message.wide_id_refused`: the grammar has no numbers that need more than 64 bits. -/

namespace Connector

/-! ## Numbers -/

namespace Varint

/-- Groups of seven bits, low group first. The top bit tells that another group follows. -/
inductive Spells : Bytes → Nat → Prop
  | last {b : UInt8} (ends : b.toNat < 128) : Spells [b] b.toNat
  | group {b : UInt8} {later : Bytes} {v : Nat} (goesOn : 128 ≤ b.toNat) (rest : Spells later v) :
      Spells (b :: later) (b.toNat % 128 + 128 * v)

/-- The octets of a number of 64 bits, with zeros on top or without. -/
def Writes (field : Bytes) (v : UInt64) : Prop := Spells field v.toNat ∧ field.length ≤ maxGroups

/-- The octets of some number whose low 64 bits make another. -/
def Wraps (field : Bytes) (v : UInt64) : Prop :=
  ∃ n, Spells field n ∧ field.length ≤ maxGroups ∧ v = UInt64.ofNat n

theorem read_eq_some_iff {k : Nat} {b rest : Bytes} {v : Nat} :
    read k b = some (v, rest) ↔ ∃ field, b = field ++ rest ∧ Spells field v ∧ field.length ≤ k := by
  induction k generalizing b v with
  | zero =>
      constructor
      · intro h
        cases h
      · rintro ⟨field, -, spells, short⟩
        cases spells <;> simp at short
  | succ k ih =>
      constructor
      · intro h
        cases b with
        | nil => cases h
        | cons x tail =>
            rw [read] at h
            split at h
            · next ends =>
                cases h
                exact ⟨[x], rfl, .last ends, by simp⟩
            · next goesOn =>
                obtain ⟨⟨w, _⟩, found, same⟩ := Option.map_eq_some_iff.mp h
                cases same
                obtain ⟨field, rfl, spells, short⟩ := ih.mp found
                refine ⟨x :: field, rfl, .group (by omega) spells, ?_⟩
                simp only [List.length_cons]
                omega
      · rintro ⟨field, rfl, spells, short⟩
        cases spells with
        | last ends => simp [read, ends]
        | @group x later w goesOn spells =>
            have found : read k (later ++ rest) = some (w, rest) := by
              apply ih.mpr
              refine ⟨later, rfl, spells, ?_⟩
              simp only [List.length_cons] at short
              omega
            rw [List.cons_append, read, if_neg (by omega), found]
            rfl

theorem decode_eq_some_iff {b rest : Bytes} {v : UInt64} :
    decode b = some (v, rest) ↔ ∃ field, b = field ++ rest ∧ Writes field v := by
  have written : (∃ field, b = field ++ rest ∧ Writes field v) ↔
      read maxGroups b = some (v.toNat, rest) := read_eq_some_iff.symm
  rw [written]
  unfold decode
  constructor
  · intro h
    split at h
    · next n tail found =>
        split at h
        · next small =>
            cases h
            rw [found, UInt64.toNat_ofNat', Nat.mod_eq_of_lt small]
        · cases h
    · cases h
  · intro found
    have small : v.toNat < 0x10000000000000000 := v.toNat_lt
    simp [found, small]

end Varint

/-! ## Text -/

theorem Utf8.decode_eq_ok_iff {b : Bytes} {s : String} : decode b = .ok s ↔ b = Bytes.ofString s := by
  constructor
  · intro h
    unfold decode String.fromUTF8? at h
    split at h
    · next found =>
        cases h
        split at found
        · cases found
          rfl
        · cases found
    · cases h
  · rintro rfl
    exact decode_ofString s

namespace Message

/-! ## The grammar -/

/-- A route as two octets with its code, high one first, or as text behind an octet with its length. -/
inductive RouteField (d : RouteDictionary) (route : String) : Bool → Bytes → Prop
  | code {high low : UInt8} (known : d.route? (high.toNat * 256 + low.toNat) = some route) :
      RouteField d route true [high, low]
  | text {length : UInt8} (counts : length.toNat = (Bytes.ofString route).length) :
      RouteField d route false (length :: Bytes.ofString route)

/-- What may stand in front of the body of a message: an octet with its kind in bits one to three, then the
fields of that kind. Bit zero tells whether the route is a code, the bits above say nothing. `number` tells
how numbers are written. -/
def Heads (number : Bytes → UInt64 → Prop) (d : RouteDictionary) (m : Message) (head : Bytes) : Prop :=
  ∃ flag idField routeField, head = flag :: (idField ++ routeField) ∧
    flag.toNat / 2 % 8 = m.kind.code ∧
    (if m.kind.hasId then number idField m.id else idField = [] ∧ m.id = 0) ∧
    if m.kind.hasRoute then RouteField d m.route (flag.toNat % 2 == 1) routeField
    else routeField = [] ∧ m.route = ""

/-- The octets of a whole message. All that stands behind its head is its body. -/
def Spelled (number : Bytes → UInt64 → Prop) (d : RouteDictionary) (m : Message) (octets : Bytes) :
    Prop :=
  ∃ head, Heads number d m head ∧ octets = head ++ m.body

/-! ## Fields -/

theorem ofCode?_eq_some_iff {n : Nat} {kind : MessageKind} :
    MessageKind.ofCode? n = some kind ↔ n = kind.code := by
  constructor
  · intro h
    unfold MessageKind.ofCode? at h
    split at h
    all_goals cases h
    all_goals rfl
  · rintro rfl
    cases kind <;> rfl

theorem takeKind_eq_ok_iff {flag : UInt8} {kind : MessageKind} :
    takeKind flag = .ok kind ↔ flag.toNat / 2 % 8 = kind.code := by
  rw [← ofCode?_eq_some_iff]
  unfold takeKind
  constructor
  · intro h
    dsimp only at h
    split at h
    · next found =>
        cases h
        exact found
    · cases h
  · intro found
    simp [found]

theorem takeId_eq_ok_iff {b rest : Bytes} {id : UInt64} :
    takeId b = .ok (id, rest) ↔ ∃ field, b = field ++ rest ∧ Varint.Writes field id := by
  rw [← Varint.decode_eq_some_iff]
  unfold takeId
  constructor
  · intro h
    split at h
    · next found =>
        cases h
        exact found
    · cases h
  · intro found
    rw [found]

theorem takeCode_eq_ok_iff {d : RouteDictionary} {b rest : Bytes} {route : String} :
    takeCode d b = .ok (route, rest) ↔ ∃ field, b = field ++ rest ∧ RouteField d route true field := by
  constructor
  · intro h
    unfold takeCode at h
    split at h
    · next high low tail =>
        dsimp only at h
        split at h
        · next known =>
            cases h
            exact ⟨[high, low], rfl, .code known⟩
        · cases h
    · cases h
  · rintro ⟨field, rfl, written⟩
    cases written with
    | code known => simp [takeCode, known]

theorem takeText_eq_ok_iff (d : RouteDictionary) {b rest : Bytes} {route : String} :
    takeText b = .ok (route, rest) ↔ ∃ field, b = field ++ rest ∧ RouteField d route false field := by
  constructor
  · intro h
    cases b with
    | nil => cases h
    | cons length tail =>
        rw [takeText] at h
        split at h
        · next whole =>
            rw [Bytes.reaches_iff] at whole
            split at h
            · next text =>
                cases h
                have octets : tail.take length.toNat = Bytes.ofString route :=
                  Utf8.decode_eq_ok_iff.mp text
                refine ⟨length :: Bytes.ofString route, ?_, .text ?_⟩
                · rw [List.cons_append, ← octets, List.take_append_drop]
                · rw [← octets, List.length_take, Nat.min_eq_left whole]
            · cases h
        · cases h
  · rintro ⟨field, rfl, written⟩
    cases written with
    | text counts =>
        have whole : Bytes.reaches (Bytes.ofString route).length (Bytes.ofString route ++ rest) = true := by
          simp
        rw [List.cons_append, takeText, counts, if_pos whole, List.take_left, List.drop_left,
          Utf8.decode_ofString]

theorem takeRoute_eq_ok_iff {d : RouteDictionary} {coded : Bool} {b rest : Bytes} {route : String} :
    takeRoute d coded b = .ok (route, rest) ↔
      ∃ field, b = field ++ rest ∧ RouteField d route coded field := by
  cases coded with
  | true => exact takeCode_eq_ok_iff
  | false => exact takeText_eq_ok_iff d

/-- A field that a message may lack is read by its grammar, or not at all. -/
theorem field_eq_ok_iff {α : Type} {carried : Bool} {take : Bytes → Except DecodeError (α × Bytes)}
    {none : α} {Field : α → Bytes → Prop}
    (read : ∀ b a rest, take b = .ok (a, rest) ↔ ∃ field, b = field ++ rest ∧ Field a field)
    {b rest : Bytes} {a : α} :
    (if carried then take b else .ok (none, b)) = .ok (a, rest) ↔
      ∃ field, b = field ++ rest ∧ if carried then Field a field else field = [] ∧ a = none := by
  cases carried with
  | true => exact read b a rest
  | false =>
      constructor
      · intro h
        cases h
        exact ⟨[], rfl, rfl, rfl⟩
      · rintro ⟨field, rfl, rfl, rfl⟩
        rfl

theorem bind_eq_ok_iff {α β : Type} {x : Except DecodeError α} {f : α → Except DecodeError β} {b : β} :
    x.bind f = .ok b ↔ ∃ a, x = .ok a ∧ f a = .ok b := by
  cases x with
  | error e => simp [Except.bind]
  | ok a => simp [Except.bind]

/-- A message is read just from the octets that spell it. -/
theorem decode_eq_ok_iff {d : RouteDictionary} {octets : Bytes} {m : Message} :
    decode d octets = .ok m ↔ Spelled Varint.Writes d m octets := by
  constructor
  · intro h
    cases octets with
    | nil => cases h
    | cons flag rest =>
        cases known : takeKind flag with
        | error e =>
            rw [decode, known] at h
            cases h
        | ok kind =>
            rw [decode_cons d known, bind_eq_ok_iff] at h
            obtain ⟨⟨id, behindId⟩, tookId, h⟩ := h
            obtain ⟨⟨route, body⟩, tookRoute, h⟩ := bind_eq_ok_iff.mp h
            cases h
            obtain ⟨idField, rfl, hasId⟩ :=
              (field_eq_ok_iff fun _ _ _ => takeId_eq_ok_iff).mp tookId
            obtain ⟨routeField, rfl, hasRoute⟩ :=
              (field_eq_ok_iff fun _ _ _ => takeRoute_eq_ok_iff).mp tookRoute
            refine ⟨flag :: (idField ++ routeField), ?_, by simp⟩
            exact ⟨flag, idField, routeField, rfl, takeKind_eq_ok_iff.mp known, hasId, hasRoute⟩
  · rintro ⟨-, ⟨flag, idField, routeField, rfl, kind, hasId, hasRoute⟩, rfl⟩
    rw [List.cons_append, decode_cons d (takeKind_eq_ok_iff.mpr kind), bind_eq_ok_iff]
    refine ⟨(m.id, routeField ++ m.body), ?_, ?_⟩
    · apply (field_eq_ok_iff fun _ _ _ => takeId_eq_ok_iff).mpr
      exact ⟨idField, by simp, hasId⟩
    · apply bind_eq_ok_iff.mpr
      refine ⟨(m.route, m.body), ?_, rfl⟩
      apply (field_eq_ok_iff fun _ _ _ => takeRoute_eq_ok_iff).mpr
      exact ⟨routeField, rfl, hasRoute⟩

/-! ## Offsets -/

/-- What can go wrong where octets are found by their offset: there may be none, or wrong ones. -/
inductive OffsetError where
  | beyond (offset : Nat)
  | wrong (cause : DecodeError)
  deriving DecidableEq, Repr

/-- The octets from an offset on, which may be the end but not lie behind it. -/
def sliceFrom (data : Bytes) (offset : Nat) : Except OffsetError Bytes :=
  if offset ≤ data.length then .ok (data.drop offset) else .error (.beyond offset)

/-- The id at an offset, and the offset behind it. -/
def idAt (data : Bytes) (offset : Nat) : Except OffsetError (UInt64 × Nat) := do
  let input ← sliceFrom data offset
  match Varint.decode input with
  | some (id, rest) => return (id, offset + (input.length - rest.length))
  | none => .error (.wrong .truncatedId)

/-- The route with the code at an offset, and the offset behind it. -/
def codeAt (d : RouteDictionary) (data : Bytes) (offset : Nat) : Except OffsetError (String × Nat) :=
  match data[offset]?, data[offset + 1]? with
  | some high, some low =>
      let code := high.toNat * 256 + low.toNat
      match d.route? code with
      | some route => .ok (route, offset + 2)
      | none => .error (.wrong (.unknownCode code))
  | _, _ => .error (.wrong .truncatedCode)

/-- The route with its length at an offset, and the offset behind it. -/
def textAt (data : Bytes) (offset : Nat) : Except OffsetError (String × Nat) :=
  match data[offset]? with
  | none => .error (.wrong .missingRouteLength)
  | some length =>
      let next := offset + 1 + length.toNat
      if next ≤ data.length then
        match Utf8.decode ((data.drop (offset + 1)).take length.toNat) with
        | .ok route => .ok (route, next)
        | .error fault => .error (.wrong (.routeNotText fault))
      else .error (.wrong .truncatedRoute)

def routeAt (d : RouteDictionary) (coded : Bool) (data : Bytes) (offset : Nat) :
    Except OffsetError (String × Nat) :=
  if coded then codeAt d data offset else textAt data offset

/-- A field that a message may lack. -/
def fieldAt {α : Type} (carried : Bool) (read : Nat → Except OffsetError (α × Nat)) (none : α)
    (offset : Nat) : Except OffsetError (α × Nat) :=
  if carried then read offset else .ok (none, offset)

/-- A message, read with an offset that goes on from field to field. -/
def decodeByOffset (d : RouteDictionary) (data : Bytes) : Except OffsetError Message :=
  match data[0]? with
  | none => .error (.wrong .empty)
  | some flag => do
      let kind ← (takeKind flag).mapError .wrong
      let (id, offset) ← fieldAt kind.hasId (idAt data) 0 1
      let (route, offset) ← fieldAt kind.hasRoute (routeAt d (flag.toNat % 2 == 1) data) "" offset
      let body ← sliceFrom data offset
      return ⟨kind, id, route, body⟩

/-- Reading on from octets and reading on from their offset come to the same, and not behind the end. -/
inductive Alongside {α : Type} (data : Bytes) :
    Except DecodeError (α × Bytes) → Except OffsetError (α × Nat) → Prop
  | fails (e : DecodeError) : Alongside data (.error e) (.error (.wrong e))
  | reads (a : α) {offset : Nat} (inside : offset ≤ data.length) :
      Alongside data (.ok (a, data.drop offset)) (.ok (a, offset))

theorem Alongside.of_drop {α : Type} {data rest : Bytes} {a : α} {offset : Nat}
    (inside : offset ≤ data.length) (same : data.drop offset = rest) :
    Alongside data (.ok (a, rest)) (.ok (a, offset)) := by
  subst same
  exact .reads a inside

theorem sliceFrom_of_le {data : Bytes} {offset : Nat} (inside : offset ≤ data.length) :
    sliceFrom data offset = .ok (data.drop offset) := if_pos inside

theorem alongside_id {data : Bytes} {offset : Nat} (inside : offset ≤ data.length) :
    Alongside data (takeId (data.drop offset)) (idAt data offset) := by
  unfold takeId idAt
  rw [sliceFrom_of_le inside]
  simp only [bind, Except.bind]
  cases found : Varint.decode (data.drop offset) with
  | none => exact .fails .truncatedId
  | some read =>
      obtain ⟨id, rest⟩ := read
      obtain ⟨field, split, -⟩ := Varint.decode_eq_some_iff.mp found
      have length := congrArg List.length split
      simp only [List.length_drop, List.length_append] at length
      have next : offset + ((data.drop offset).length - rest.length) = offset + field.length := by
        rw [List.length_drop]
        omega
      dsimp only
      rw [next]
      refine .of_drop (by omega) ?_
      rw [← List.drop_drop, split, List.drop_left]

theorem alongside_code (d : RouteDictionary) (data : Bytes) (offset : Nat) :
    Alongside data (takeCode d (data.drop offset)) (codeAt d data offset) := by
  unfold codeAt
  rw [← List.getElem?_drop (i := offset) (j := 1)]
  have first : data[offset]? = (data.drop offset)[0]? := by simp
  rw [first]
  match known : data.drop offset with
  | [] => exact .fails .truncatedCode
  | [_] => exact .fails .truncatedCode
  | high :: low :: rest =>
      have length := congrArg List.length known
      simp only [List.length_drop, List.length_cons] at length
      simp only [takeCode, List.getElem?_cons_zero, List.getElem?_cons_succ]
      cases d.route? (high.toNat * 256 + low.toNat) with
      | none => exact .fails _
      | some route =>
          refine .of_drop (by omega) ?_
          rw [← List.drop_drop, known]
          rfl

theorem alongside_text (data : Bytes) (offset : Nat) :
    Alongside data (takeText (data.drop offset)) (textAt data offset) := by
  unfold textAt
  have first : data[offset]? = (data.drop offset)[0]? := by simp
  rw [first, ← List.drop_drop]
  cases known : data.drop offset with
  | nil => exact .fails .missingRouteLength
  | cons length rest =>
      have count := congrArg List.length known
      simp only [List.length_drop, List.length_cons] at count
      have whole : Bytes.reaches length.toNat rest = true ↔ offset + 1 + length.toNat ≤ data.length := by
        rw [Bytes.reaches_iff]
        omega
      simp only [takeText, whole, List.getElem?_cons_zero, List.drop_succ_cons, List.drop_zero]
      split
      · next inside =>
          cases Utf8.decode (rest.take length.toNat) with
          | error fault => exact .fails _
          | ok route =>
              refine .of_drop inside ?_
              rw [← List.drop_drop, ← List.drop_drop, known]
              rfl
      · exact .fails .truncatedRoute

theorem Alongside.bind {α β : Type} {data : Bytes} {x : Except DecodeError (α × Bytes)}
    {y : Except OffsetError (α × Nat)} (along : Alongside data x y)
    {f : α × Bytes → Except DecodeError β} {g : α × Nat → Except OffsetError β}
    (next : ∀ a offset, offset ≤ data.length →
      g (a, offset) = (f (a, data.drop offset)).mapError .wrong) :
    y.bind g = (x.bind f).mapError .wrong := by
  cases along with
  | fails e => rfl
  | reads a inside => exact next a _ inside

theorem Alongside.field {α : Type} {data : Bytes} {offset : Nat} (inside : offset ≤ data.length)
    (carried : Bool) {x : Except DecodeError (α × Bytes)} {read : Nat → Except OffsetError (α × Nat)}
    (along : Alongside data x (read offset)) (none : α) :
    Alongside data (if carried then x else .ok (none, data.drop offset))
      (fieldAt carried read none offset) := by
  cases carried with
  | true => exact along
  | false => exact .reads none inside

theorem alongside_route (d : RouteDictionary) (coded : Bool) (data : Bytes) (offset : Nat) :
    Alongside data (takeRoute d coded (data.drop offset)) (routeAt d coded data offset) := by
  cases coded with
  | true => exact alongside_code d data offset
  | false => exact alongside_text data offset

/-- Offsets do as well as the octets themselves, and none of them is behind the end. -/
theorem decodeByOffset_eq (d : RouteDictionary) (data : Bytes) :
    decodeByOffset d data = (decode d data).mapError .wrong := by
  cases data with
  | nil => rfl
  | cons flag rest =>
      cases known : takeKind flag with
      | error e =>
          have refused : decode d (flag :: rest) = .error e := by simp [decode, known, bind, Except.bind]
          rw [refused, decodeByOffset, List.getElem?_cons_zero]
          dsimp only
          rw [known]
          rfl
      | ok kind =>
          have start : 1 ≤ (flag :: rest).length := by simp
          rw [decode_cons d known, decodeByOffset, List.getElem?_cons_zero]
          dsimp only
          rw [known]
          refine ((alongside_id start).field start kind.hasId 0).bind ?_
          intro id offset inside
          refine ((alongside_route d _ _ offset).field inside kind.hasRoute "").bind ?_
          intro route offset inside
          simp only [sliceFrom_of_le inside]
          rfl

/-! ## The reader and the grammar -/

/-- **Exactly the octets that spell a message are read.** They give the message of their kind with the number
and the route that they spell, and with all octets behind its head as its body. Zero stands for a number and
the empty text for a route that the kind does not carry. Any other octets are refused as malformed. Read by
offsets the outcome is the same, so no offset ever lies behind the end, whatever the octets are. -/
theorem decode_format (d : RouteDictionary) (octets : Bytes) :
    (∀ m, decode d octets = .ok m ↔ Spelled Varint.Writes d m octets) ∧
      ((∀ m, ¬ Spelled Varint.Writes d m octets) →
        ∃ e detail, decode d octets = .error e ∧ e.toError = .malformedProtocol detail) ∧
      decodeByOffset d octets = (decode d octets).mapError .wrong := by
  refine ⟨fun m => decode_eq_ok_iff, ?_, decodeByOffset_eq d octets⟩
  intro unspelled
  cases read : decode d octets with
  | ok m => exact absurd (decode_eq_ok_iff.mp read) (unspelled m)
  | error e => exact ⟨e, e.detail, rfl, rfl⟩

/-- Ten groups can spell a number that 64 bits do not hold, such as two to the power of 64. It is not cut down
to its low bits, which would make zero here, but refused. -/
theorem wide_id_refused :
    let head : Bytes := [0, 128, 128, 128, 128, 128, 128, 128, 128, 128, 2, 5, 97, 46, 66, 46, 67]
    Spelled Varint.Wraps .empty (.request 0 "a.B.C" [65]) (head ++ [65]) ∧
      decode .empty (head ++ [65]) = .error .truncatedId := by
  intro head
  have wide : Varint.read Varint.maxGroups [128, 128, 128, 128, 128, 128, 128, 128, 128, 2] =
      some (2 ^ 64, []) := by decide
  obtain ⟨field, same, spells, short⟩ := Varint.read_eq_some_iff.mp wide
  rw [List.append_nil] at same
  refine ⟨⟨head, ⟨0, field, [5, 97, 46, 66, 46, 67], ?_, rfl, ?_, ?_⟩, rfl⟩, rfl⟩
  · rw [← same]
    rfl
  · exact ⟨2 ^ 64, spells, short, rfl⟩
  · exact .text rfl

end Message

end Connector
