import Connector.Proofs.Frames

/-! Framing and the cuts of a stream.

* `drain_append`: what comes of a buffer that grows, from what came of it before and of its rest;
* `drain_rest_eq_nil_iff`: nothing stays in a buffer that is made of whole frames, and only there;
* `feed_cut`: a stream in pieces gives the packets, the fault and the rest of the whole stream. -/

namespace Connector.Framing

/-! ## One packet after another -/

/-- The same, with octets behind that were not looked at. -/
def Drained.before (r : Drained) (more : Bytes) : Drained := { r with rest := r.rest ++ more }

theorem Drained.before_nil (r : Drained) : r.before [] = r := by
  rw [before, List.append_nil]

theorem Drained.after_nil (r : Drained) : r.after [] [] = r := rfl

theorem Drained.after_after (r : Drained) (ps qs : List Packet) (ss ts : List UInt8) :
    (r.after ps ss).after qs ts = r.after (qs ++ ps) (ts ++ ss) := by
  simp only [Drained.after, List.append_assoc]

theorem drain_of_parse {limit : Nat} {b : Bytes} {looked : Parsed} (h : parse limit b = looked) :
    drain limit b =
      match looked.outcome with
      | .error e => ⟨[], some e, looked.rest, looked.skipped⟩
      | .ok none => ⟨[], none, looked.rest, looked.skipped⟩
      | .ok (some p) => (drain limit looked.rest).after [p] looked.skipped := by
  rw [drain]
  split
  all_goals rename_i found
  all_goals rw [h] at found
  all_goals cases found
  all_goals rfl

theorem drain_of_oversize {limit : Nat} {b : Bytes} (h : Oversize limit b) :
    drain limit b = ⟨[], some (.exceedsLimit (declared b) limit), b, []⟩ :=
  drain_of_parse (parse_of_oversize h)

theorem drain_of_partial {limit : Nat} {b : Bytes} (h : Partial limit b) :
    drain limit b = ⟨[], none, b, []⟩ :=
  drain_of_parse (parse_of_partial h)

/-- A frame that is left out leaves its type octet, another one its packet. -/
def Frame.left (f : Frame) : List UInt8 := if f.packet?.isNone then [f.tag] else []

theorem drain_octets_append {limit : Nat} {f : Frame} (within : f.body.length ≤ limit) (b : Bytes) :
    drain limit (f.octets ++ b) = (drain limit b).after f.packet?.toList f.left := by
  cases known : f.packet? with
  | some p =>
      have front : parse limit (f.octets ++ b) = ⟨.ok (some p), b, []⟩ := by
        rw [parse_octets_append within, known]
      rw [drain_of_parse front, Frame.left, known]
      rfl
  | none =>
      have front : parse limit (f.octets ++ b) = (parse limit b).after f.tag := by
        rw [parse_octets_append within, known]
      have left : f.left = [f.tag] := by rw [Frame.left, known]; rfl
      rw [left, drain_of_parse front, drain_of_parse (b := b) rfl]
      rcases parse limit b with ⟨outcome, rest, skipped⟩
      rcases outcome with e | found
      · rfl
      · cases found with
        | none => rfl
        | some p => exact (Drained.after_after (drain limit rest) [p] [] skipped [f.tag]).symm

/-! ## A buffer that grows -/

/-- What stays after a drain stays after the next one. -/
theorem drain_rest {limit : Nat} {b : Bytes} (sound : (drain limit b).fault = none) :
    drain limit (drain limit b).rest = ⟨[], none, (drain limit b).rest, []⟩ := by
  induction b using front_induction limit with
  | frame f b within ih =>
      rw [drain_octets_append within] at sound ⊢
      exact ih sound
  | oversize b big =>
      rw [drain_of_oversize big] at sound
      cases sound
  | few b short =>
      have idle := drain_of_partial short
      rw [idle]
      exact idle

theorem drain_append_of_fault {limit : Nat} {b : Bytes} {e : PacketError}
    (fault : (drain limit b).fault = some e) (more : Bytes) :
    drain limit (b ++ more) = (drain limit b).before more := by
  induction b using front_induction limit with
  | frame f b within ih =>
      rw [drain_octets_append within] at fault ⊢
      rw [List.append_assoc, drain_octets_append within, ih fault]
      rfl
  | oversize b big =>
      rw [drain_of_oversize big, drain_of_oversize (big.append more), declared_append big.headed]
      rfl
  | few b short =>
      rw [drain_of_partial short] at fault
      cases fault

theorem drain_append {limit : Nat} {b : Bytes} (sound : (drain limit b).fault = none) (more : Bytes) :
    drain limit (b ++ more) =
      (drain limit ((drain limit b).rest ++ more)).after (drain limit b).packets
        (drain limit b).skipped := by
  induction b using front_induction limit with
  | frame f b within ih =>
      rw [drain_octets_append within] at sound ⊢
      rw [List.append_assoc, drain_octets_append within, ih sound, Drained.after_after]
      rfl
  | oversize b big =>
      rw [drain_of_oversize big] at sound
      cases sound
  | few b short =>
      rw [drain_of_partial short, Drained.after_nil]

/-- What a drain found stays found. -/
theorem drain_packets_prefix (limit : Nat) (b more : Bytes) :
    (drain limit b).packets <+: (drain limit (b ++ more)).packets := by
  cases fault : (drain limit b).fault with
  | none =>
      rw [drain_append fault]
      exact List.prefix_append _ _
  | some e =>
      rw [drain_append_of_fault fault]
      exact List.prefix_refl _

/-! ## Whole frames -/

/-- Nothing but whole frames, known or not, within the limit. -/
def OnlyFrames (limit : Nat) (b : Bytes) : Prop :=
  ∃ fs : List Frame, (∀ f ∈ fs, f.body.length ≤ limit) ∧ b = wire fs

theorem drain_rest_eq_nil_iff (limit : Nat) (b : Bytes) :
    (drain limit b).rest = [] ↔ OnlyFrames limit b := by
  constructor
  · intro h
    induction b using front_induction limit with
    | frame f b within ih =>
        rw [drain_octets_append within] at h
        obtain ⟨fs, all, rfl⟩ := ih h
        refine ⟨f :: fs, ?_, rfl⟩
        intro g mem
        rcases List.mem_cons.mp mem with rfl | mem
        · exact within
        · exact all g mem
    | oversize b big =>
        rw [drain_of_oversize big] at h
        exact ⟨[], by simp, h⟩
    | few b short =>
        rw [drain_of_partial short] at h
        exact ⟨[], by simp, h⟩
  · rintro ⟨fs, within, rfl⟩
    induction fs with
    | nil => exact congrArg Drained.rest (drain_of_partial (.inl (by decide)))
    | cons f fs ih =>
        rw [wire_cons, drain_octets_append (within f List.mem_cons_self)]
        exact ih fun g mem => within g (List.mem_cons_of_mem _ mem)

instance (limit : Nat) (b : Bytes) : Decidable (OnlyFrames limit b) :=
  decidable_of_iff _ (drain_rest_eq_nil_iff limit b)

/-! ## A stream in pieces -/

theorem feed_cons_of_fault {limit : Nat} {buffer piece : Bytes} {e : PacketError}
    (fault : (drain limit (buffer ++ piece)).fault = some e) (pieces : List Bytes) :
    feed limit buffer (piece :: pieces) = (drain limit (buffer ++ piece), pieces) := by
  rw [feed, fault]

theorem feed_cons_of_sound {limit : Nat} {buffer piece : Bytes}
    (sound : (drain limit (buffer ++ piece)).fault = none) (pieces : List Bytes) :
    feed limit buffer (piece :: pieces) =
      let now := drain limit (buffer ++ piece)
      let later := feed limit now.rest pieces
      (later.1.after now.packets now.skipped, later.2) := by
  rw [feed, sound]

/-- From a buffer that holds nothing to find, the pieces give what their octets give at once. After a
fault the pieces that were not read are what is missing from the rest. -/
theorem drain_append_flatten {limit : Nat} {buffer : Bytes}
    (idle : drain limit buffer = ⟨[], none, buffer, []⟩) (pieces : List Bytes) :
    drain limit (buffer ++ pieces.flatten) =
        (feed limit buffer pieces).1.before (feed limit buffer pieces).2.flatten ∧
      ((feed limit buffer pieces).1.fault = none → (feed limit buffer pieces).2 = []) := by
  induction pieces generalizing buffer with
  | nil =>
      rw [feed, List.flatten_nil, List.append_nil, idle, Drained.before_nil]
      exact ⟨rfl, fun _ => rfl⟩
  | cons piece pieces ih =>
      rw [List.flatten_cons, ← List.append_assoc]
      cases fault : (drain limit (buffer ++ piece)).fault with
      | some e =>
          rw [feed_cons_of_fault fault]
          refine ⟨drain_append_of_fault fault _, ?_⟩
          intro sound
          rw [fault] at sound
          cases sound
      | none =>
          obtain ⟨whole, unread⟩ := ih (drain_rest fault)
          rw [feed_cons_of_sound fault, drain_append fault, whole]
          exact ⟨rfl, unread⟩

/-- **Framing does not depend on how a stream is cut**: its pieces one by one and the whole of it at
once give the same packets, leave out the same frames and end in the same fault, if any. The octets
left and the pieces not read are what the whole stream leaves, and without a fault all pieces are
read. -/
theorem feed_cut (limit : Nat) (pieces : List Bytes) :
    let cut := feed limit [] pieces
    let whole := feed limit [] [pieces.flatten]
    cut.1.packets = whole.1.packets ∧ cut.1.fault = whole.1.fault ∧ cut.1.skipped = whole.1.skipped ∧
      cut.1.rest ++ cut.2.flatten = whole.1.rest ∧
      (cut.1.fault = none → cut.2 = [] ∧ cut.1.rest = whole.1.rest) := by
  intro cut whole
  have idle : drain limit [] = ⟨[], none, [], []⟩ := drain_of_partial (.inl (by decide))
  obtain ⟨inPieces, allRead⟩ := drain_append_flatten idle pieces
  obtain ⟨atOnce, -⟩ := drain_append_flatten idle [pieces.flatten]
  have unread : whole.2 = [] := by
    show (feed limit [] [pieces.flatten]).2 = []
    rw [feed]
    split <;> rfl
  have same : cut.1.before cut.2.flatten = whole.1 := by
    rw [List.flatten_singleton, inPieces] at atOnce
    rw [← Drained.before_nil whole.1, ← List.flatten_nil, ← unread]
    exact atOnce
  rw [← same]
  refine ⟨rfl, rfl, rfl, rfl, ?_⟩
  intro sound
  have none : cut.2 = [] := allRead sound
  rw [none, List.flatten_nil, Drained.before_nil]
  exact ⟨rfl, rfl⟩

end Connector.Framing
