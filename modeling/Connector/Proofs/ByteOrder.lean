import Connector.Bytes

/-! Byte order of texts.

* `Bytes.Before`: the first octet in which two strings differ decides;
* `Bytes.before_ofString`: UTF-8 keeps the order of texts. -/

namespace Connector.Bytes

/-- Byte order. What begins another string comes before it. -/
def Before (a b : Bytes) : Prop := List.Lex (· < ·) a b

theorem before_cons_iff {a b : UInt8} {as bs : Bytes} :
    Before (a :: as) (b :: bs) ↔ a.toNat < b.toNat ∨ a = b ∧ Before as bs := by
  rw [Before, List.cons_lex_cons_iff, UInt8.lt_iff_toNat_lt]
  rfl

theorem Before.append_left {a b : Bytes} (h : Before a b) (first : Bytes) :
    Before (first ++ a) (first ++ b) := by
  induction first with
  | nil => exact h
  | cons octet first ih => exact .cons ih

/-! ## Characters -/

/-- An octet that goes on with a character. -/
def continuing (v : Nat) : UInt8 := UInt8.ofNat (v % 64 + 128)

theorem toNat_continuing (v : Nat) : (continuing v).toNat = v % 64 + 128 := by
  rw [continuing, UInt8.toNat_ofNat']
  omega

variable {v w : Nat}

theorem before_one (less : v < w) (same : v / 64 = w / 64) (x y : Bytes) :
    Before (continuing v :: x) (continuing w :: y) := by
  rw [before_cons_iff, toNat_continuing, toNat_continuing]
  left
  omega

theorem before_two (less : v < w) (same : v / 4096 = w / 4096) (x y : Bytes) :
    Before (continuing (v / 64) :: continuing v :: x) (continuing (w / 64) :: continuing w :: y) := by
  rw [before_cons_iff, toNat_continuing, toNat_continuing]
  by_cases next : v / 64 = w / 64
  · exact .inr ⟨by rw [next], before_one less next x y⟩
  · left
    omega

theorem before_three (less : v < w) (same : v / 262144 = w / 262144) (x y : Bytes) :
    Before (continuing (v / 4096) :: continuing (v / 64) :: continuing v :: x)
      (continuing (w / 4096) :: continuing (w / 64) :: continuing w :: y) := by
  rw [before_cons_iff, toNat_continuing, toNat_continuing]
  by_cases next : v / 4096 = w / 4096
  · exact .inr ⟨by rw [next], before_two less next x y⟩
  · left
    omega

/-- The first octet tells the length of a character, and longer ones come later. -/
theorem before_encodeChar {c d : Char} (h : c < d) (x y : Bytes) :
    Before (String.utf8EncodeChar c ++ x) (String.utf8EncodeChar d ++ y) := by
  have less : c.val.toNat < d.val.toNat := UInt32.lt_iff_toNat_lt.mp h
  have top : d.val.toNat < 0x110000 := by
    have valid := d.valid
    simp only [UInt32.isValidChar, Nat.isValidChar] at valid
    omega
  simp only [String.utf8EncodeChar]
  generalize c.val.toNat = v at less ⊢
  generalize d.val.toNat = w at less top ⊢
  repeat' split
  all_goals simp only [List.cons_append, List.nil_append]
  all_goals rw [before_cons_iff, UInt8.toNat_ofNat', UInt8.toNat_ofNat']
  any_goals (left; omega)
  · by_cases first : v / 64 = w / 64
    · exact .inr ⟨by rw [first], before_one less first x y⟩
    · exact .inl (by omega)
  · by_cases first : v / 4096 = w / 4096
    · exact .inr ⟨by rw [first], before_two less first x y⟩
    · exact .inl (by omega)
  · by_cases first : v / 262144 = w / 262144
    · exact .inr ⟨by rw [first], before_three less first x y⟩
    · exact .inl (by omega)

/-! ## Texts -/

theorem ofString_eq (s : String) : ofString s = s.toList.flatMap String.utf8EncodeChar := by
  have octets : s.toUTF8 = (s.toList.flatMap String.utf8EncodeChar).toByteArray :=
    String.utf8Encode_toList.symm
  rw [ofString, octets, List.data_toByteArray]

theorem encodeChar_ne_nil (c : Char) : String.utf8EncodeChar c ≠ [] := by
  rw [String.utf8EncodeChar]
  repeat' split
  all_goals exact List.cons_ne_nil _ _

theorem before_flatMap {cs ds : List Char} (h : cs < ds) :
    Before (cs.flatMap String.utf8EncodeChar) (ds.flatMap String.utf8EncodeChar) := by
  induction h with
  | @nil d ds =>
      obtain ⟨octet, octets, known⟩ := List.exists_cons_of_ne_nil (encodeChar_ne_nil d)
      rw [List.flatMap_nil, List.flatMap_cons, known]
      exact .nil
  | rel less => exact before_encodeChar less _ _
  | cons _ ih => exact ih.append_left _

/-- UTF-8 keeps the order of texts. -/
theorem before_ofString {a b : String} (h : a < b) : Before (ofString a) (ofString b) := by
  rw [ofString_eq, ofString_eq]
  exact before_flatMap h

end Connector.Bytes
