import Connector.Packet.Framing

/-! The grammar of frames, and `parse` as its reader.

* `front_cases`: a buffer starts with a whole frame within the limit, or with a header over the limit,
  or with less than a frame;
* `parse_octets_append`: what `parse` makes of a frame at the front;
* `exists_stuck`: in front of every buffer stands a longest run of frames that the reader leaves out;
* `parse_grammar`: `parse` answers by the grammar alone, and undoes `Packet.encode`. -/

namespace Connector

/-! ## Octets and kinds -/

theorem PacketKind.tag_of_ofTag? {tag : UInt8} {kind : PacketKind} (h : ofTag? tag = some kind) :
    kind.tag = tag := by
  unfold ofTag? at h
  repeat' split at h
  all_goals first | contradiction | (cases h; symm; assumption)

theorem PacketKind.ofTag?_eq_none_iff (tag : UInt8) : ofTag? tag = none ↔ tag < 1 ∨ 4 < tag := by
  constructor
  · intro h
    simp only [ofTag?] at h
    repeat' split at h
    all_goals first | contradiction | skip
    next h1 h2 h3 h4 =>
      simp only [← UInt8.toNat_inj, UInt8.lt_iff_toNat_lt] at h1 h2 h3 h4 ⊢
      simp only [UInt8.reduceToNat] at h1 h2 h3 h4 ⊢
      omega
  · intro h
    have known : ∀ n : UInt8, 1 ≤ n → n ≤ 4 → tag ≠ n := by
      rintro n low high rfl
      rcases h with h | h
      · exact absurd (UInt8.lt_of_lt_of_le h low) (UInt8.lt_irrefl _)
      · exact absurd (UInt8.lt_of_lt_of_le h high) (UInt8.lt_irrefl _)
    simp [ofTag?, known 1, known 2, known 3, known 4]

namespace Framing

/-- The body length that octets two to four give, high octet first. -/
def declared (b : Bytes) : Nat := ((b.drop 1).take 3).foldl (fun n octet => n * 256 + octet.toNat) 0

theorem bodyLength?_eq (b : Bytes) :
    bodyLength? b = if Packet.headLength ≤ b.length then some (declared b) else none := by
  match b with
  | [] | [_] | [_, _] | [_, _, _] => rfl
  | _ :: x :: y :: z :: tail =>
      simp only [bodyLength?, Packet.headLength, declared, List.length_cons, List.drop_succ_cons,
        List.drop_zero, List.take_succ_cons, List.take_zero, List.foldl_cons, List.foldl_nil]
      rw [if_pos (by omega), Option.some.injEq]
      omega

theorem declared_header {n : Nat} (tag : UInt8) (h : n ≤ Packet.maxBodyLength) (b : Bytes) :
    declared (Packet.header tag n ++ b) = n := by
  simp only [Packet.maxBodyLength] at h
  simp only [declared, Packet.header, List.cons_append, List.drop_succ_cons, List.drop_zero,
    List.take_succ_cons, List.take_zero, List.foldl_cons, List.foldl_nil, UInt8.toNat_ofNat']
  omega

theorem declared_append {b : Bytes} (h : Packet.headLength ≤ b.length) (more : Bytes) :
    declared (b ++ more) = declared b := by
  match b with
  | [] | [_] | [_, _] | [_, _, _] => simp [Packet.headLength] at h
  | _ :: _ :: _ :: _ :: _ => rfl

/-- Four octets are a header. -/
theorem exists_header {b : Bytes} (h : Packet.headLength ≤ b.length) :
    ∃ tag, declared b ≤ Packet.maxBodyLength ∧ b = Packet.header tag (declared b) ++ b.drop 4 := by
  match b with
  | [] | [_] | [_, _] | [_, _, _] => simp [Packet.headLength] at h
  | tag :: x :: y :: z :: tail =>
      have hx := x.toNat_lt
      have hy := y.toNat_lt
      have hz := z.toNat_lt
      refine ⟨tag, ?_, ?_⟩
      · simp only [declared, Packet.maxBodyLength, List.drop_succ_cons, List.drop_zero,
          List.take_succ_cons, List.take_zero, List.foldl_cons, List.foldl_nil]
        omega
      · simp only [declared, Packet.header, List.drop_succ_cons, List.drop_zero, List.take_succ_cons,
          List.take_zero, List.foldl_cons, List.foldl_nil, List.cons_append, List.nil_append,
          List.cons.injEq, and_true, true_and, ← UInt8.toNat_inj, UInt8.toNat_ofNat']
        omega

/-! ## Frames -/

/-- A type octet, known or not, and a body that three octets can count. -/
structure Frame where
  tag : UInt8
  body : Bytes
  countable : body.length ≤ Packet.maxBodyLength

namespace Frame

/-- The frame on the wire. -/
def octets (f : Frame) : Bytes := Packet.header f.tag f.body.length ++ f.body

/-- The packet in a frame of known type. -/
def packet? (f : Frame) : Option Packet := (PacketKind.ofTag? f.tag).map fun kind => ⟨kind, f.body⟩

def ofPacket (p : Packet) (h : p.body.length ≤ Packet.maxBodyLength) : Frame := ⟨p.kind.tag, p.body, h⟩

/-- A frame that the reader leaves out. -/
structure Skippable (limit : Nat) (f : Frame) : Prop where
  unknown : f.tag < 1 ∨ 4 < f.tag
  within : f.body.length ≤ limit

theorem length_octets (f : Frame) : f.octets.length = Packet.headLength + f.body.length := by
  simp only [octets, Packet.header, Packet.headLength, List.length_append, List.length_cons,
    List.length_nil]

@[simp] theorem declared_octets (f : Frame) (b : Bytes) : declared (f.octets ++ b) = f.body.length := by
  rw [octets, List.append_assoc]
  exact declared_header f.tag f.countable (f.body ++ b)

/-- The length in its header tells where a frame ends. -/
theorem octets_append_inj {f g : Frame} {b c : Bytes} (h : f.octets ++ b = g.octets ++ c) :
    f = g ∧ b = c := by
  have bodies : f.body.length = g.body.length := by
    rw [← declared_octets f b, h, declared_octets]
  have lengths : f.octets.length = g.octets.length := by rw [length_octets, length_octets, bodies]
  obtain ⟨same, rest⟩ := List.append_inj h lengths
  obtain ⟨tagF, bodyF, _⟩ := f
  obtain ⟨tagG, bodyG, _⟩ := g
  simp only [octets, Packet.header, List.cons_append, List.nil_append, List.cons.injEq] at same
  obtain ⟨rfl, -, -, -, rfl⟩ := same
  exact ⟨rfl, rest⟩

theorem unknown_iff (f : Frame) : (f.tag < 1 ∨ 4 < f.tag) ↔ f.packet? = none := by
  rw [packet?, Option.map_eq_none_iff, PacketKind.ofTag?_eq_none_iff]

@[simp] theorem packet?_ofPacket (p : Packet) (h : p.body.length ≤ Packet.maxBodyLength) :
    (ofPacket p h).packet? = some p := by
  simp [packet?, ofPacket]

end Frame

/-- Writing a packet fails just for a body that is too long, and writes its frame. -/
theorem encode_eq_ok_iff (p : Packet) (octets : Bytes) :
    p.encode = .ok octets ↔
      ∃ h : p.body.length ≤ Packet.maxBodyLength, octets = (Frame.ofPacket p h).octets := by
  unfold Packet.encode
  split
  · next long =>
      constructor
      · intro h
        cases h
      · rintro ⟨h, -⟩
        omega
  · next fits =>
      constructor
      · intro h
        cases h
        exact ⟨by omega, rfl⟩
      · rintro ⟨_, rfl⟩
        rfl

theorem encode_fails_iff (p : Packet) :
    (∃ e, p.encode = .error e) ↔ Packet.maxBodyLength < p.body.length := by
  unfold Packet.encode
  split
  · next long => exact ⟨fun _ => long, fun _ => ⟨_, rfl⟩⟩
  · next fits => exact ⟨fun ⟨_, h⟩ => (by cases h), fun long => absurd long fits⟩

/-! ## The front of a buffer -/

/-- A header over the limit. -/
structure Oversize (limit : Nat) (b : Bytes) : Prop where
  headed : Packet.headLength ≤ b.length
  exceeds : limit < declared b

/-- Less than a frame, and no header over the limit. -/
def Partial (limit : Nat) (b : Bytes) : Prop :=
  b.length < Packet.headLength ∨ declared b ≤ limit ∧ b.length < Packet.headLength + declared b

/-- A frame in front whose body is within the limit. -/
def Headed (limit : Nat) (b : Bytes) : Prop :=
  ∃ (f : Frame) (rest : Bytes), f.body.length ≤ limit ∧ b = f.octets ++ rest

theorem front_cases (limit : Nat) (b : Bytes) :
    Headed limit b ∨ Oversize limit b ∨ Partial limit b := by
  by_cases headed : Packet.headLength ≤ b.length
  · by_cases big : limit < declared b
    · exact .inr (.inl ⟨headed, big⟩)
    · by_cases whole : Packet.headLength + declared b ≤ b.length
      · left
        obtain ⟨tag, countable, split⟩ := exists_header headed
        obtain ⟨body, rest, length, tail⟩ :
            ∃ body rest : Bytes, body.length = declared b ∧ b.drop 4 = body ++ rest := by
          refine ⟨_, _, ?_, (List.take_append_drop (declared b) (b.drop 4)).symm⟩
          rw [List.length_take, List.length_drop]
          simp only [Packet.headLength] at whole
          omega
        rw [tail, ← length, ← List.append_assoc] at split
        exact ⟨⟨tag, body, by omega⟩, rest, by show body.length ≤ limit; omega, split⟩
      · exact .inr (.inr (.inr ⟨by omega, by omega⟩))
  · exact .inr (.inr (.inl (by omega)))

theorem Oversize.append {limit : Nat} {b : Bytes} (h : Oversize limit b) (more : Bytes) :
    Oversize limit (b ++ more) := by
  refine ⟨?_, ?_⟩
  · rw [List.length_append]
    exact Nat.le_add_right_of_le h.headed
  · rw [declared_append h.headed]
    exact h.exceeds

/-- Frame by frame from the front, to a header over the limit or to less than a frame. -/
@[elab_as_elim]
theorem front_induction (limit : Nat) {motive : Bytes → Prop}
    (frame : ∀ (f : Frame) (rest : Bytes), f.body.length ≤ limit → motive rest →
      motive (f.octets ++ rest))
    (oversize : ∀ b, Oversize limit b → motive b) (few : ∀ b, Partial limit b → motive b) (b : Bytes) :
    motive b := by
  induction size : b.length using Nat.strongRecOn generalizing b with
  | ind n ih =>
      rcases front_cases limit b with ⟨f, rest, within, rfl⟩ | big | short
      · have shorter : rest.length < n := by
          rw [← size, List.length_append, Frame.length_octets, Packet.headLength]
          omega
        exact frame f rest within (ih rest.length shorter rest rfl)
      · exact oversize b big
      · exact few b short

/-! ## A look at the front -/

theorem check_octets_append {limit : Nat} {f : Frame} (within : f.body.length ≤ limit) (b : Bytes) :
    check limit (f.octets ++ b) = .ok f.body.length := by
  have length : (f.octets ++ b).length = Packet.headLength + f.body.length + b.length := by
    rw [List.length_append, Frame.length_octets]
  have known : bodyLength? (f.octets ++ b) = some f.body.length := by
    rw [bodyLength?_eq, if_pos (by omega), Frame.declared_octets]
  have whole : Bytes.reaches (Packet.headLength + f.body.length) (f.octets ++ b) = true := by
    rw [Bytes.reaches_iff]
    omega
  have fits : ¬ limit < f.body.length := by omega
  simp only [check, known, fits, whole, if_true, if_false]

/-- A frame within the limit comes out as its packet, or is left out if its type is not known. -/
theorem parse_octets_append {limit : Nat} {f : Frame} (within : f.body.length ≤ limit) (b : Bytes) :
    parse limit (f.octets ++ b) =
      match f.packet? with
      | some p => ⟨.ok (some p), b, []⟩
      | none => (parse limit b).after f.tag := by
  have checked := check_octets_append within b
  have front : f.octets ++ b =
      f.tag :: UInt8.ofNat (f.body.length / 65536) :: UInt8.ofNat (f.body.length / 256) ::
        UInt8.ofNat f.body.length :: (f.body ++ b) := rfl
  rw [front] at checked ⊢
  rw [parse, checked]
  cases known : PacketKind.ofTag? f.tag with
  | some kind =>
      simp only [Frame.packet?, known, Option.map_some, List.take_left', List.drop_left']
  | none =>
      simp only [Frame.packet?, known, Option.map_none, List.drop_left']

theorem parse_of_oversize {limit : Nat} {b : Bytes} (h : Oversize limit b) :
    parse limit b = ⟨.error (.exceedsLimit (declared b) limit), b, []⟩ := by
  have checked : check limit b = .error (.exceedsLimit (declared b) limit) := by
    simp only [check, bodyLength?_eq, if_pos h.headed, if_pos h.exceeds]
  rw [parse, checked]

theorem parse_of_partial {limit : Nat} {b : Bytes} (h : Partial limit b) :
    parse limit b = ⟨.ok none, b, []⟩ := by
  have checked : check limit b = .error .incomplete := by
    by_cases headed : Packet.headLength ≤ b.length
    · rcases h with short | ⟨fits, short⟩
      · omega
      · have wait : Bytes.reaches (Packet.headLength + declared b) b = false := by
          rw [Bool.eq_false_iff, ne_eq, Bytes.reaches_iff]
          omega
        have limited : ¬ limit < declared b := by omega
        simp only [check, bodyLength?_eq, if_pos headed, if_neg limited, wait, Bool.false_eq_true,
          if_false]
    · simp only [check, bodyLength?_eq, if_neg headed]
  rw [parse, checked]

/-! ## Frames that are left out -/

/-- Several frames on the wire. -/
def wire (fs : List Frame) : Bytes := (fs.map Frame.octets).flatten

@[simp] theorem wire_nil : wire [] = [] := rfl

@[simp] theorem wire_cons (f : Frame) (fs : List Frame) : wire (f :: fs) = f.octets ++ wire fs := rfl

theorem length_le_length_wire (fs : List Frame) : Packet.headLength * fs.length ≤ (wire fs).length := by
  induction fs with
  | nil => exact Nat.zero_le _
  | cons f fs ih =>
      rw [wire_cons, List.length_append, Frame.length_octets, List.length_cons, Nat.mul_succ]
      omega

/-- No frame in front that the reader leaves out. -/
def Stuck (limit : Nat) (t : Bytes) : Prop :=
  ∀ (f : Frame) (rest : Bytes), f.Skippable limit → t ≠ f.octets ++ rest

/-- The frames `fs` are the longest run of frames in front of `b` that the reader leaves out, and `t` is
the rest. -/
structure LongestSkip (limit : Nat) (b : Bytes) (fs : List Frame) (t : Bytes) : Prop where
  skippable : ∀ f ∈ fs, f.Skippable limit
  split : b = wire fs ++ t
  longest : ∀ (gs : List Frame) (rest : Bytes), (∀ g ∈ gs, g.Skippable limit) → b = wire gs ++ rest →
    (wire gs).length ≤ (wire fs).length

theorem exists_stuck (limit : Nat) (b : Bytes) :
    ∃ (fs : List Frame) (t : Bytes),
      (∀ f ∈ fs, f.Skippable limit) ∧ b = wire fs ++ t ∧ Stuck limit t := by
  induction b using front_induction limit with
  | frame f rest within ih =>
      by_cases unknown : f.tag < 1 ∨ 4 < f.tag
      · obtain ⟨fs, t, all, rfl, stuck⟩ := ih
        refine ⟨f :: fs, t, ?_, ?_, stuck⟩
        · intro g mem
          rcases List.mem_cons.mp mem with rfl | mem
          · exact ⟨unknown, within⟩
          · exact all g mem
        · rw [wire_cons, List.append_assoc]
      · refine ⟨[], f.octets ++ rest, by simp, rfl, ?_⟩
        intro g _ skippable same
        obtain ⟨rfl, -⟩ := Frame.octets_append_inj same
        exact unknown skippable.unknown
  | oversize b big =>
      refine ⟨[], b, by simp, rfl, ?_⟩
      rintro g rest ⟨-, within⟩ rfl
      have := big.exceeds
      rw [Frame.declared_octets] at this
      omega
  | few b short =>
      refine ⟨[], b, by simp, rfl, ?_⟩
      rintro g rest ⟨-, within⟩ rfl
      rw [Partial, Frame.declared_octets, List.length_append, Frame.length_octets] at short
      omega

/-- Frames have one reading only, so nothing beats a run that ends where it is stuck. -/
theorem length_wire_le_of_stuck {limit : Nat} {fs gs : List Frame} {t rest : Bytes}
    (stuck : Stuck limit t) (skippable : ∀ g ∈ gs, g.Skippable limit)
    (same : wire fs ++ t = wire gs ++ rest) : (wire gs).length ≤ (wire fs).length := by
  induction fs generalizing gs with
  | nil =>
      cases gs with
      | nil => exact Nat.le_refl _
      | cons g gs =>
          rw [wire_nil, List.nil_append, wire_cons, List.append_assoc] at same
          exact absurd same (stuck g _ (skippable g List.mem_cons_self))
  | cons f fs ih =>
      cases gs with
      | nil => exact Nat.zero_le _
      | cons g gs =>
          simp only [wire_cons, List.append_assoc] at same
          obtain ⟨rfl, tails⟩ := Frame.octets_append_inj same
          have := ih (fun h mem => skippable h (List.mem_cons_of_mem _ mem)) tails
          simp only [wire_cons, List.length_append]
          omega

theorem parse_wire_append {limit : Nat} {fs : List Frame} (skippable : ∀ f ∈ fs, f.Skippable limit)
    (t : Bytes) :
    parse limit (wire fs ++ t) =
      { parse limit t with skipped := fs.map Frame.tag ++ (parse limit t).skipped } := by
  induction fs with
  | nil => rfl
  | cons f fs ih =>
      obtain ⟨unknown, within⟩ := skippable f List.mem_cons_self
      have left : f.packet? = none := f.unknown_iff.mp unknown
      rw [wire_cons, List.append_assoc, parse_octets_append within, left,
        ih fun g mem => skippable g (List.mem_cons_of_mem _ mem)]
      rfl

/-! ## The grammar decides -/

/-- At the front of a stuck buffer there is a packet, a header over the limit, or less than a frame. -/
theorem stuck_cases {limit : Nat} {t : Bytes} (stuck : Stuck limit t) :
    (∃ (f : Frame) (p : Packet) (rest : Bytes),
        f.packet? = some p ∧ f.body.length ≤ limit ∧ t = f.octets ++ rest) ∨
      Oversize limit t ∨ Partial limit t := by
  rcases front_cases limit t with ⟨f, rest, within, split⟩ | big | few
  · cases known : f.packet? with
    | some p => exact .inl ⟨f, p, rest, known, within, split⟩
    | none => exact absurd split (stuck f rest ⟨f.unknown_iff.mpr known, within⟩)
  · exact .inr (.inl big)
  · exact .inr (.inr few)

/-- A frame with a packet in it is the wire form of that packet. -/
theorem Frame.encode_of_packet? {f : Frame} {p : Packet} (h : f.packet? = some p) :
    p.body = f.body ∧ p.encode = .ok f.octets := by
  obtain ⟨tag, body, countable⟩ := f
  obtain ⟨kind, known, rfl⟩ := Option.map_eq_some_iff.mp h
  refine ⟨rfl, (encode_eq_ok_iff _ _).mpr ⟨countable, ?_⟩⟩
  rw [Frame.ofPacket, PacketKind.tag_of_ofTag? known]

theorem parse_packet_iff {limit : Nat} {t : Bytes} (stuck : Stuck limit t) (p : Packet) (rest : Bytes) :
    ((parse limit t).outcome = .ok (some p) ∧ (parse limit t).rest = rest) ↔
      p.body.length ≤ limit ∧ ∃ octets, p.encode = .ok octets ∧ t = octets ++ rest := by
  constructor
  · rintro ⟨found, rfl⟩
    rcases stuck_cases stuck with ⟨f, q, rest, known, within, rfl⟩ | big | few
    · obtain ⟨same, encoded⟩ := Frame.encode_of_packet? known
      rw [parse_octets_append within, known] at found ⊢
      cases found
      exact ⟨by rw [same]; exact within, _, encoded, rfl⟩
    · rw [parse_of_oversize big] at found
      cases found
    · rw [parse_of_partial few] at found
      cases found
  · rintro ⟨within, octets, encoded, rfl⟩
    obtain ⟨countable, rfl⟩ := (encode_eq_ok_iff p octets).mp encoded
    have within : (Frame.ofPacket p countable).body.length ≤ limit := within
    rw [parse_octets_append within, Frame.packet?_ofPacket]
    exact ⟨rfl, rfl⟩

theorem parse_error_iff {limit : Nat} {t : Bytes} (stuck : Stuck limit t) (e : PacketError) :
    ((parse limit t).outcome = .error e ∧ (parse limit t).rest = t) ↔
      Oversize limit t ∧ e = .exceedsLimit (declared t) limit := by
  constructor
  · rintro ⟨found, -⟩
    rcases stuck_cases stuck with ⟨f, q, rest, known, within, rfl⟩ | big | few
    · rw [parse_octets_append within, known] at found
      cases found
    · rw [parse_of_oversize big] at found
      cases found
      exact ⟨big, rfl⟩
    · rw [parse_of_partial few] at found
      cases found
  · rintro ⟨big, rfl⟩
    rw [parse_of_oversize big]
    exact ⟨rfl, rfl⟩

theorem parse_none_iff {limit : Nat} {t : Bytes} (stuck : Stuck limit t) :
    ((parse limit t).outcome = .ok none ∧ (parse limit t).rest = t) ↔ Partial limit t := by
  constructor
  · rintro ⟨found, -⟩
    rcases stuck_cases stuck with ⟨f, q, rest, known, within, rfl⟩ | big | few
    · rw [parse_octets_append within, known] at found
      cases found
    · rw [parse_of_oversize big] at found
      cases found
    · exact few
  · intro few
    rw [parse_of_partial few]
    exact ⟨rfl, rfl⟩

theorem rest_eq_of_no_packet {limit : Nat} {t : Bytes} (stuck : Stuck limit t) :
    (∃ p, (parse limit t).outcome = .ok (some p)) ∨ (parse limit t).rest = t := by
  rcases stuck_cases stuck with ⟨f, q, rest, known, within, rfl⟩ | big | few
  · rw [parse_octets_append within, known]
    exact .inl ⟨q, rfl⟩
  · rw [parse_of_oversize big]
    exact .inr rfl
  · rw [parse_of_partial few]
    exact .inr rfl

theorem skipped_eq_nil_of_stuck {limit : Nat} {t : Bytes} (stuck : Stuck limit t) :
    (parse limit t).skipped = [] := by
  rcases stuck_cases stuck with ⟨f, q, rest, known, within, rfl⟩ | big | few
  · rw [parse_octets_append within, known]
  · rw [parse_of_oversize big]
  · rw [parse_of_partial few]

/-- A look that finds no packet finds the same again, with nothing left out. -/
theorem parse_rest (limit : Nat) (b : Bytes) (h : ∀ p, (parse limit b).outcome ≠ .ok (some p)) :
    parse limit (parse limit b).rest = ⟨(parse limit b).outcome, (parse limit b).rest, []⟩ := by
  obtain ⟨fs, t, skippable, rfl, stuck⟩ := exists_stuck limit b
  rw [parse_wire_append skippable] at h ⊢
  rcases rest_eq_of_no_packet stuck with ⟨p, found⟩ | same
  · exact absurd found (h p)
  · have none := skipped_eq_nil_of_stuck stuck
    rcases looked : parse limit t with ⟨outcome, rest, skipped⟩
    rw [looked] at same none
    cases same
    cases none
    exact looked

/-- **The grammar decides what a look at the buffer gives**: past the longest run of frames that are
left out, a packet comes out just where its wire form stands, a fault where the header is over the
limit, and nothing where there is less than a frame. Without a packet the run is all that goes. Its
frames are those that were left out, no more than the octets have headers for, and a packet can be
written unless its body is too long. -/
theorem parse_grammar (limit : Nat) (b : Bytes) :
    (∃ (fs : List Frame) (t : Bytes), LongestSkip limit b fs t ∧
      (∀ (p : Packet) (rest : Bytes),
        ((parse limit b).outcome = .ok (some p) ∧ (parse limit b).rest = rest) ↔
          p.body.length ≤ limit ∧ ∃ octets, p.encode = .ok octets ∧ t = octets ++ rest) ∧
      (∀ e : PacketError, ((parse limit b).outcome = .error e ∧ (parse limit b).rest = t) ↔
        (Packet.headLength ≤ t.length ∧ limit < declared t) ∧ e = .exceedsLimit (declared t) limit) ∧
      (((parse limit b).outcome = .ok none ∧ (parse limit b).rest = t) ↔
        t.length < Packet.headLength ∨
          declared t ≤ limit ∧ t.length < Packet.headLength + declared t) ∧
      ((∃ p, (parse limit b).outcome = .ok (some p)) ∨ (parse limit b).rest = t) ∧
      (parse limit b).skipped = fs.map Frame.tag ∧
      Packet.headLength * (parse limit b).skipped.length ≤ b.length) ∧
    ∀ p : Packet, (∃ e, p.encode = .error e) ↔ 0xffffff < p.body.length := by
  refine ⟨?_, encode_fails_iff⟩
  obtain ⟨fs, t, skippable, rfl, stuck⟩ := exists_stuck limit b
  have tags : (parse limit (wire fs ++ t)).skipped = fs.map Frame.tag := by
    rw [parse_wire_append skippable, skipped_eq_nil_of_stuck stuck, List.append_nil]
  have longest : LongestSkip limit (wire fs ++ t) fs t :=
    ⟨skippable, rfl, fun gs rest => length_wire_le_of_stuck stuck⟩
  refine ⟨fs, t, longest, ?_, ?_, ?_, ?_, tags, ?_⟩
  · intro p rest
    rw [parse_wire_append skippable]
    exact parse_packet_iff stuck p rest
  · intro e
    rw [parse_wire_append skippable]
    refine (parse_error_iff stuck e).trans ?_
    exact and_congr_left' ⟨fun big => ⟨big.headed, big.exceeds⟩, fun ⟨headed, big⟩ => ⟨headed, big⟩⟩
  · rw [parse_wire_append skippable]
    exact parse_none_iff stuck
  · rw [parse_wire_append skippable]
    exact rest_eq_of_no_packet stuck
  · have few := length_le_length_wire fs
    rw [tags, List.length_map, List.length_append]
    omega

/-- A frame of unknown type before a heartbeat: the octets of both go, one comes out. -/
example : (parse 64 [9, 0, 0, 2, 1, 2, 3, 0, 0, 0, 4, 0]).outcome = .ok (some ⟨.heartbeat, []⟩) := by
  cbv

end Framing

end Connector
