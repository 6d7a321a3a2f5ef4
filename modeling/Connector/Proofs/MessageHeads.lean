import Connector.Proofs.MessageFormat

/-! Heads of messages: what stands in front of the body.

* `Heads.decode_append`: a head is read alike in front of any body;
* `Heads.eq_of_prefix`: no head goes on where another one ends;
* `heads_of_read`: what a message that was read has in front of its body is its head;
* `head_ends_itself`: so a head tells by itself where it ends, and no part of it will do. -/

namespace Connector.Message

variable {number : Bytes → UInt64 → Prop} {d : RouteDictionary} {m other : Message}
  {octets head longer : Bytes}

/-- A head says nothing about the body. -/
theorem Heads.withBody (h : Heads number d m head) (body : Bytes) :
    Heads number d { m with body } head := h

theorem Heads.decode_append (h : Heads Varint.Writes d m head) (body : Bytes) :
    decode d (head ++ body) = .ok { m with body } :=
  decode_eq_ok_iff.mpr ⟨head, h.withBody body, rfl⟩

/-- What comes behind a head is body, so no longer octets are a head as well, not even that of another
message. -/
theorem Heads.eq_of_prefix (h : Heads Varint.Writes d m head) (h' : Heads Varint.Writes d other longer)
    (within : head <+: longer) : head = longer := by
  obtain ⟨rest, rfl⟩ := within
  have parted := h.decode_append rest
  have whole := h'.decode_append []
  rw [List.append_nil, parted] at whole
  injection whole with same
  have none : rest = [] := congrArg Message.body same
  rw [none, List.append_nil]

/-- The octets of a message without as many at the end as its body has. -/
def front (octets : Bytes) (m : Message) : Bytes := octets.take (octets.length - m.body.length)

theorem heads_of_read (read : decode d octets = .ok m) :
    Heads Varint.Writes d m (front octets m) ∧ octets = front octets m ++ m.body := by
  obtain ⟨head, heads, rfl⟩ := decode_eq_ok_iff.mp read
  have same : front (head ++ m.body) m = head := by
    rw [front, List.length_append, Nat.add_sub_cancel, List.take_left]
  rw [same]
  exact ⟨heads, rfl⟩

/-- **A head ends itself.** Take any octets that are read as a message, written in the shortest way or not,
and the part in front of the body. With any other body behind it this part is read as the same message with
that body. Cut short, it is not read at all. -/
theorem head_ends_itself (d : RouteDictionary) (octets : Bytes) (m : Message)
    (read : decode d octets = .ok m) :
    let head := front octets m
    octets = head ++ m.body ∧ (∀ body, decode d (head ++ body) = .ok { m with body }) ∧
      ∀ part, part <+: head → part ≠ head → ∃ e, decode d part = .error e := by
  intro head
  obtain ⟨heads, split⟩ := heads_of_read read
  refine ⟨split, heads.decode_append, ?_⟩
  intro part within shorter
  cases outcome : decode d part with
  | error e => exact ⟨e, rfl⟩
  | ok other =>
      obtain ⟨own, rest⟩ := heads_of_read outcome
      have begins : front part other <+: part := List.take_prefix _ _
      have whole : front part other = head := own.eq_of_prefix heads (begins.trans within)
      have back : head <+: part := whole ▸ begins
      exact absurd (within.eq_of_length_le back.length_le) shorter

/-- A request with unused bits set and zeros on top of its id. -/
theorem head_ends_itself_of_request :
    let octets : Bytes := [0xf0, 0x87, 0x80, 0, 5, 97, 46, 66, 46, 67, 1, 2]
    let head : Bytes := [0xf0, 0x87, 0x80, 0, 5, 97, 46, 66, 46, 67]
    decode .empty octets = .ok (.request 7 "a.B.C" [1, 2]) ∧
      decode .empty (head ++ [3]) = .ok (.request 7 "a.B.C" [3]) ∧
      ∃ e, decode .empty [0xf0, 0x87, 0x80, 0, 5, 97, 46, 66, 46] = .error e := by
  intro octets head
  have read : decode .empty octets = .ok (.request 7 "a.B.C" [1, 2]) := by rfl
  obtain ⟨-, bodies, parts⟩ := head_ends_itself .empty octets _ read
  exact ⟨read, bodies [3], parts _ ⟨[67], rfl⟩ (by decide)⟩

end Connector.Message
