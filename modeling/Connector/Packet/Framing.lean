import Connector.Log
import Connector.Packet

/-! Framing: packets out of a buffer that fills as octets arrive.

- `check`: whether the buffer starts with a whole frame, and how long its body is.
- `parse`: the first packet of the buffer and what stays in it. Frames of unknown type are left out.
- `drain`: every packet of the buffer, up to the first that is not whole or too long.
- `feed`: the same for a buffer that grows by one piece after another. -/

namespace Connector.Framing

/-- The body length that the header at the front gives, once the header is there. -/
def bodyLength? : Bytes → Option Nat
  | _ :: a :: b :: c :: _ => some (a.toNat * 65536 + b.toNat * 256 + c.toNat)
  | _ => none

/-- The limit comes first: a frame that is too long is refused before its body has arrived. -/
def check (limit : Nat) (buffer : Bytes) : Except PacketError Nat :=
  match bodyLength? buffer with
  | none => .error .incomplete
  | some n =>
      if limit < n then .error (.exceedsLimit n limit)
      else if Bytes.reaches (Packet.headLength + n) buffer then .ok n
      else .error .incomplete

/-- A look at the front of a buffer: a packet, a fault, or neither as long as more octets are needed;
what is left; and the type octets of the frames that were left out. -/
structure Parsed where
  outcome : Except PacketError (Option Packet)
  rest : Bytes
  skipped : List UInt8

/-- The same, after a frame of unknown type. -/
def Parsed.after (r : Parsed) (tag : UInt8) : Parsed := { r with skipped := tag :: r.skipped }

def parse (limit : Nat) (buffer : Bytes) : Parsed :=
  match check limit buffer with
  | .error .incomplete => ⟨.ok none, buffer, []⟩
  | .error e => ⟨.error e, buffer, []⟩
  | .ok n =>
      match buffer with
      | tag :: _ :: _ :: _ :: tail =>
          match PacketKind.ofTag? tag with
          | some kind => ⟨.ok (some ⟨kind, tail.take n⟩), tail.drop n, []⟩
          | none => (parse limit (tail.drop n)).after tag
      | _ => ⟨.ok none, buffer, []⟩
termination_by buffer.length
decreasing_by simp; omega

theorem parse_rest_length_le (limit : Nat) (buffer : Bytes) :
    (parse limit buffer).rest.length ≤ buffer.length := by
  fun_induction parse limit buffer with
  | case1 | case2 | case5 => simp
  | case3 => simp only [List.length_drop, List.length_cons]; omega
  | case4 _ _ _ _ _ _ _ _ ih =>
      simp only [Parsed.after, List.length_drop, List.length_cons] at ih ⊢; omega

/-- A packet takes its header at least. -/
theorem parse_rest_length_lt {limit : Nat} {buffer : Bytes} {p : Packet}
    (h : (parse limit buffer).outcome = .ok (some p)) :
    (parse limit buffer).rest.length < buffer.length := by
  fun_induction parse limit buffer with
  | case1 | case2 | case5 => simp at h
  | case3 => simp only [List.length_drop, List.length_cons]; omega
  | case4 _ _ _ _ _ _ _ _ ih =>
      have := ih h
      simp only [Parsed.after, List.length_drop, List.length_cons] at this ⊢; omega

structure Drained where
  packets : List Packet
  fault : Option PacketError
  rest : Bytes
  skipped : List UInt8

/-- The same, after earlier packets and skipped frames. -/
def Drained.after (r : Drained) (packets : List Packet) (skipped : List UInt8) : Drained :=
  { r with packets := packets ++ r.packets, skipped := skipped ++ r.skipped }

def drain (limit : Nat) (buffer : Bytes) : Drained :=
  match _h : parse limit buffer with
  | ⟨.error e, rest, skipped⟩ => ⟨[], some e, rest, skipped⟩
  | ⟨.ok none, rest, skipped⟩ => ⟨[], none, rest, skipped⟩
  | ⟨.ok (some p), rest, skipped⟩ => (drain limit rest).after [p] skipped
termination_by buffer.length
decreasing_by
  have shorter : (parse limit buffer).rest.length < buffer.length :=
    parse_rest_length_lt (p := p) (by rw [_h])
  rwa [_h] at shorter

/-- Pieces go into the buffer one at a time, each drained before the next. A fault ends it, and the pieces
after it come back unread. -/
def feed (limit : Nat) (buffer : Bytes) : List Bytes → Drained × List Bytes
  | [] => (⟨[], none, buffer, []⟩, [])
  | piece :: pieces =>
      let now := drain limit (buffer ++ piece)
      match now.fault with
      | some _ => (now, pieces)
      | none =>
          let (later, unread) := feed limit now.rest pieces
          (later.after now.packets now.skipped, unread)

/-- Cuts a string into pieces of `size` octets, the last one maybe shorter. No size means one piece. -/
def chunks (size : Nat) (b : Bytes) : List Bytes :=
  if size = 0 ∨ (b.drop size).isEmpty then [b] else b.take size :: chunks size (b.drop size)
termination_by b.length
decreasing_by
  simp only [List.isEmpty_iff, List.drop_eq_nil_iff, not_or] at *
  simp only [List.length_drop]
  omega

/-- What is said about frames that were left out. -/
def skippedLogs (tags : List UInt8) : List Log :=
  tags.map fun tag => .warn ("drop packet: " ++ (PacketError.unknownKind tag).toError.message)

end Connector.Framing
