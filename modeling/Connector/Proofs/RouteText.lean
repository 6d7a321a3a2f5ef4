import Connector.Route

/-! Routes and their texts.

* `segments_append`: the first segment of a text and what follows it;
* `parse_eq_ok_iff`: a text is that of a route just when reading it gives the route;
* `text_inj`: no two routes that can be read share a text;
* `pointed_iff`: the text of a route tells whether there is a point in one of its names;
* `join_inj`: texts joined by a point can be told apart if the first has none;
* `texts_and_values`: so a text is read as the one route that has it, or not at all. -/

namespace Connector.Route

/-! ## Segments -/

theorem segments_of_cons_ne {c : Char} {cs a : List Char} {more : List (List Char)} (h : c ≠ '.')
    (known : segments cs = a :: more) : segments (c :: cs) = (c :: a) :: more := by
  rw [segments, if_neg h, known]

theorem segments_append (a rest : List Char) (h : '.' ∉ a) :
    segments (a ++ '.' :: rest) = a :: segments rest := by
  induction a with
  | nil => rw [List.nil_append, segments, if_pos rfl]
  | cons c a ih =>
      have point := List.ne_of_not_mem_cons h
      exact segments_of_cons_ne point.symm (ih (List.not_mem_of_not_mem_cons h))

theorem segments_of_not_mem {a : List Char} (h : '.' ∉ a) : segments a = [a] := by
  induction a with
  | nil => rfl
  | cons c a ih =>
      have point := List.ne_of_not_mem_cons h
      exact segments_of_cons_ne point.symm (ih (List.not_mem_of_not_mem_cons h))

/-- The first segment has no point. Either it is all, or a point and the other segments follow. -/
theorem segments_cases (cs : List Char) :
    ∃ a more, segments cs = a :: more ∧ '.' ∉ a ∧
      (more = [] ∧ cs = a ∨ ∃ rest, cs = a ++ '.' :: rest ∧ more = segments rest) := by
  induction cs with
  | nil => exact ⟨[], [], rfl, List.not_mem_nil, .inl ⟨rfl, rfl⟩⟩
  | cons c cs ih =>
      by_cases point : c = '.'
      · subst point
        exact ⟨[], segments cs, segments_append [] cs List.not_mem_nil, List.not_mem_nil,
          .inr ⟨cs, rfl, rfl⟩⟩
      · obtain ⟨a, more, known, pure, follows⟩ := ih
        refine ⟨c :: a, more, segments_of_cons_ne point known, ?_, ?_⟩
        · exact List.not_mem_cons_of_ne_of_not_mem (Ne.symm point) pure
        · rcases follows with ⟨none, all⟩ | ⟨rest, split, others⟩
          · exact .inl ⟨none, congrArg (c :: ·) all⟩
          · exact .inr ⟨rest, congrArg (c :: ·) split, others⟩

/-- The rest of a text after its first segment, of which there are others. -/
theorem segments_eq_cons_cons {cs a b : List Char} {more : List (List Char)}
    (h : segments cs = a :: b :: more) :
    '.' ∉ a ∧ ∃ rest, cs = a ++ '.' :: rest ∧ segments rest = b :: more := by
  obtain ⟨a', more', known, pure, follows⟩ := segments_cases cs
  rw [known] at h
  cases h
  rcases follows with ⟨none, -⟩ | ⟨rest, split, others⟩
  · cases none
  · exact ⟨pure, rest, split, others.symm⟩

theorem segments_eq_singleton {cs a : List Char} (h : segments cs = [a]) : '.' ∉ a ∧ cs = a := by
  obtain ⟨a', more', known, pure, follows⟩ := segments_cases cs
  rw [known] at h
  cases h
  rcases follows with ⟨-, all⟩ | ⟨rest, -, others⟩
  · exact ⟨pure, all⟩
  · obtain ⟨b, more, found, -⟩ := segments_cases rest
    rw [found] at others
    cases others

/-! ## Texts -/

/-- No segment is empty or has a point. -/
def Proper (r : Route) : Prop :=
  ∀ part ∈ [r.serverType, r.service, r.method], part ≠ "" ∧ '.' ∉ part.toList

instance (r : Route) : Decidable r.Proper := inferInstanceAs (Decidable (∀ part ∈ _, _))

theorem toList_text (r : Route) :
    r.text.toList =
      r.serverType.toList ++ '.' :: (r.service.toList ++ '.' :: r.method.toList) := by
  simp [text]

theorem exists_cons_of_ne {part : String} (h : part ≠ "") :
    ∃ c cs, part.toList = c :: cs ∧ String.ofList (c :: cs) = part := by
  cases known : part.toList with
  | nil => exact absurd (String.toList_eq_nil_iff.mp known) h
  | cons c cs => exact ⟨c, cs, rfl, by rw [← known, String.ofList_toList]⟩

theorem parse_text {r : Route} (proper : r.Proper) : parse r.text = .ok r := by
  obtain ⟨serverType, service, method⟩ := r
  obtain ⟨some₁, pure₁⟩ := proper serverType (by simp)
  obtain ⟨some₂, pure₂⟩ := proper service (by simp)
  obtain ⟨some₃, pure₃⟩ := proper method (by simp)
  have parts : segments (Route.text ⟨serverType, service, method⟩).toList =
      [serverType.toList, service.toList, method.toList] := by
    rw [toList_text, segments_append _ _ pure₁, segments_append _ _ pure₂, segments_of_not_mem pure₃]
  obtain ⟨a, as, head₁, same₁⟩ := exists_cons_of_ne some₁
  obtain ⟨b, bs, head₂, same₂⟩ := exists_cons_of_ne some₂
  obtain ⟨c, cs, head₃, same₃⟩ := exists_cons_of_ne some₃
  rw [head₁, head₂, head₃] at parts
  rw [parse, parts]
  simp only [same₁, same₂, same₃]

theorem proper_ofList {c : Char} {cs : List Char} (pure : '.' ∉ c :: cs) :
    String.ofList (c :: cs) ≠ "" ∧ '.' ∉ (String.ofList (c :: cs)).toList := by
  rw [String.toList_ofList]
  refine ⟨?_, pure⟩
  intro empty
  have none := congrArg String.toList empty
  rw [String.toList_ofList] at none
  cases none

theorem eq_text_of_parse {text : String} {r : Route} (h : parse text = .ok r) :
    r.Proper ∧ text = r.text := by
  unfold parse at h
  split at h
  · next a as b bs c cs parts =>
      cases h
      obtain ⟨pure₁, rest₁, split₁, parts₁⟩ := segments_eq_cons_cons parts
      obtain ⟨pure₂, rest₂, split₂, parts₂⟩ := segments_eq_cons_cons parts₁
      obtain ⟨pure₃, last⟩ := segments_eq_singleton parts₂
      constructor
      · intro part mem
        simp only [List.mem_cons, List.not_mem_nil, or_false] at mem
        rcases mem with rfl | rfl | rfl
        · exact proper_ofList pure₁
        · exact proper_ofList pure₂
        · exact proper_ofList pure₃
      · rw [← String.toList_inj, toList_text, split₁, split₂, last]
        simp only [String.toList_ofList]
  · cases h

theorem parse_eq_ok_iff (text : String) (r : Route) : parse text = .ok r ↔ r.Proper ∧ text = r.text := by
  constructor
  · exact eq_text_of_parse
  · rintro ⟨proper, rfl⟩
    exact parse_text proper

theorem text_inj {r other : Route} (proper : r.Proper) (proper' : other.Proper)
    (same : r.text = other.text) : r = other := by
  have once := parse_text proper
  rw [same, parse_text proper'] at once
  cases once
  rfl

/-! ## Points in names -/

theorem count_text (r : Route) :
    r.text.toList.count '.' =
      r.serverType.toList.count '.' + r.service.toList.count '.' + r.method.toList.count '.' + 2 := by
  rw [toList_text, List.count_append, List.count_cons_self, List.count_append, List.count_cons_self]
  omega

/-- Some name of the route has a point in it. -/
def Pointed (r : Route) : Prop :=
  '.' ∈ r.serverType.toList ∨ '.' ∈ r.service.toList ∨ '.' ∈ r.method.toList

instance (r : Route) : Decidable r.Pointed := inferInstanceAs (Decidable (_ ∨ _))

/-- A text tells whether there are points in the names, though not in which of them. -/
theorem pointed_iff (r : Route) : r.Pointed ↔ 2 < r.text.toList.count '.' := by
  rw [count_text, Pointed, ← List.count_pos_iff, ← List.count_pos_iff, ← List.count_pos_iff]
  omega

theorem proper_iff (r : Route) :
    r.Proper ↔ (∀ part ∈ [r.serverType, r.service, r.method], part ≠ "") ∧ ¬ r.Pointed := by
  simp only [Proper, Pointed, List.mem_cons, List.not_mem_nil, or_false, forall_eq_or_imp, forall_eq,
    not_or]
  constructor
  · rintro ⟨⟨named₁, pure₁⟩, ⟨named₂, pure₂⟩, named₃, pure₃⟩
    exact ⟨⟨named₁, named₂, named₃⟩, pure₁, pure₂, pure₃⟩
  · rintro ⟨⟨named₁, named₂, named₃⟩, pure₁, pure₂, pure₃⟩
    exact ⟨⟨named₁, pure₁⟩, ⟨named₂, pure₂⟩, named₃, pure₃⟩

theorem not_pointed_of_text_eq {r other : Route} (same : r.text = other.text) (proper : other.Proper) :
    ¬ r.Pointed := by
  rw [pointed_iff, same, ← pointed_iff]
  exact (other.proper_iff.mp proper).2

/-! ## Joined texts -/

theorem append_point_inj {a b x y : List Char} (pure : '.' ∉ a) (pure' : '.' ∉ b)
    (same : a ++ '.' :: x = b ++ '.' :: y) : a = b ∧ x = y := by
  have parts := congrArg segments same
  rw [segments_append a x pure, segments_append b y pure'] at parts
  obtain rfl : a = b := (List.cons.inj parts).1
  exact ⟨rfl, (List.cons.inj (List.append_cancel_left same)).2⟩

/-- The first of two joined texts ends at the first point, if it has none itself. -/
theorem join_inj {a b x y : String} (pure : '.' ∉ a.toList) (pure' : '.' ∉ b.toList)
    (same : a ++ "." ++ x = b ++ "." ++ y) : a = b ∧ x = y := by
  have chars := congrArg String.toList same
  simp only [String.toList_append, List.append_assoc] at chars
  obtain ⟨first, second⟩ := append_point_inj pure pure' chars
  exact ⟨String.toList_inj.mp first, String.toList_inj.mp second⟩

/-! ## Texts and values -/

/-- Where there are no points in the names, those in the text tell the names apart. -/
theorem eq_of_not_pointed {r other : Route} (plain : ¬ r.Pointed) (plain' : ¬ other.Pointed)
    (same : r.text = other.text) : r = other := by
  obtain ⟨pure₁, pure₂, -⟩ := not_or.mp plain |>.imp_right not_or.mp
  obtain ⟨pure₁', pure₂', -⟩ := not_or.mp plain' |>.imp_right not_or.mp
  have chars := congrArg String.toList same
  rw [toList_text, toList_text] at chars
  obtain ⟨serverType, chars⟩ := append_point_inj pure₁ pure₁' chars
  obtain ⟨service, method⟩ := append_point_inj pure₂ pure₂' chars
  calc r = ⟨r.serverType, r.service, r.method⟩ := rfl
    _ = ⟨other.serverType, other.service, other.method⟩ := by
      rw [String.toList_inj.mp serverType, String.toList_inj.mp service, String.toList_inj.mp method]
    _ = other := rfl

/-- The text of a route that can be read is that of no other route, be its names what they may. -/
theorem eq_of_text_eq {r other : Route} (proper : other.Proper) (same : r.text = other.text) :
    r = other :=
  eq_of_not_pointed (not_pointed_of_text_eq same proper) (other.proper_iff.mp proper).2 same

theorem parse_eq_error {text : String} (unread : ∀ r, parse text ≠ .ok r) :
    parse text = .error ⟨text⟩ := by
  unfold parse at unread ⊢
  split
  · next parts =>
      rw [parts] at unread
      exact absurd rfl (unread _)
  · rfl

/-- **Texts and routes that can be read correspond one to one.** A text is read just when it is three
segments with a point between them, none of them empty or with a point in it, and what is read has that very
text. The text of a route, whatever its names are, is read as this route or not at all: it is read just when
no name is empty or has a point in it. So the text of a route that can be read belongs to no other route. -/
theorem texts_and_values :
    (∀ text, (∃ r, parse text = .ok r) ↔
      ∃ a b c : String, (∀ part ∈ [a, b, c], part ≠ "" ∧ '.' ∉ part.toList) ∧
        text = a ++ "." ++ b ++ "." ++ c) ∧
    (∀ text r, parse text = .ok r → r.text = text) ∧
    (∀ r : Route, parse r.text = if r.Proper then .ok r else .error ⟨r.text⟩) ∧
    (∀ r other : Route, parse r.text = .ok other → other = r) ∧
    ∀ r other : Route, other.Proper → r.text = other.text → r = other := by
  have reads : ∀ r other : Route, parse r.text = .ok other → other = r := by
    intro r other read
    obtain ⟨proper, same⟩ := eq_text_of_parse read
    exact (eq_of_text_eq proper same).symm
  refine ⟨?_, ?_, ?_, reads, fun r other => eq_of_text_eq⟩
  · intro text
    constructor
    · rintro ⟨r, read⟩
      obtain ⟨proper, same⟩ := eq_text_of_parse read
      exact ⟨r.serverType, r.service, r.method, proper, same⟩
    · rintro ⟨a, b, c, proper, same⟩
      exact ⟨⟨a, b, c⟩, (parse_eq_ok_iff text _).mpr ⟨proper, same⟩⟩
  · intro text r read
    exact (eq_text_of_parse read).2.symm
  · intro r
    split
    · next proper => exact parse_text proper
    · next improper =>
        apply parse_eq_error
        intro other read
        obtain rfl := reads r other read
        exact improper (eq_text_of_parse read).1

-- Routes that cannot be read may well share a text.
example : (⟨"a.b", "c", "d"⟩ : Route).text = (⟨"a", "b.c", "d"⟩ : Route).text := by decide

end Connector.Route
