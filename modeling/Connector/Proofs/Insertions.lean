import Mathlib.Data.List.Induction
import Connector.Proofs.RouteCodes

/-! Dictionaries by the history of their insertions.

* `Inserting`, `inserting`: a route is known, or gets the next code, or finds the dictionary full;
* `routes_of_insertions`: what a dictionary holds are the routes that came first, each of them once;
* `bijection_of_insertions`: so the code of a route is its place among them, and the other way round. -/

namespace Connector.RouteDictionary

/-- What can come of an insertion. -/
inductive Inserting (d : RouteDictionary) (route : String) :
    RouteDictionary × Except DictionaryFull Nat → Prop
  | known {code : Nat} (found : d.code? route = some code) : d.Inserting route (d, .ok code)
  | new {later : RouteDictionary} (absent : d.code? route = none) (room : d.size < maxCode)
      (joined : later.routes.toList = d.routes.toList ++ [route]) :
      d.Inserting route (later, .ok (d.size + 1))
  | full (absent : d.code? route = none) (filled : d.size = maxCode) :
      d.Inserting route (d, .error ⟨route⟩)

theorem inserting (d : RouteDictionary) (route : String) : d.Inserting route (d.insert route) := by
  unfold insert
  split
  · next code found => exact .known found
  · next absent =>
      dsimp only
      by_cases fits : d.size + 1 ≤ maxCode
      · rw [dif_pos fits]
        exact .new absent fits Array.toList_push
      · have bounded : d.size ≤ maxCode := d.bounded
        rw [dif_neg fits]
        exact .full absent (by omega)

/-! ## Routes in the order of their first insertion -/

theorem eraseDups_concat (routes : List String) (route : String) :
    (routes ++ [route]).eraseDups =
      if route ∈ routes then routes.eraseDups else routes.eraseDups ++ [route] := by
  rw [List.eraseDups_append]
  by_cases mem : route ∈ routes
  · simp [List.removeAll, mem]
  · simp [List.removeAll, mem, List.eraseDups_cons]

theorem insertAll_concat (d : RouteDictionary) (routes : List String) (route : String) :
    d.insertAll (routes ++ [route]) = ((d.insertAll routes).insert route).1 := by
  rw [insertAll_append]
  rfl

/-- A dictionary holds the routes that were inserted, each where it came first, as many as there are codes.
-/
theorem routes_of_insertions (inserted : List String) :
    (empty.insertAll inserted).routes.toList = inserted.eraseDups.take maxCode := by
  induction inserted using List.reverseRecOn with
  | nil => rfl
  | append_singleton routes route ih =>
      rw [insertAll_concat, eraseDups_concat]
      have held : (empty.insertAll routes).code? route = none ↔
          route ∉ routes.eraseDups.take maxCode := by
        rw [code?_eq_none_iff, ih]
      have length : (empty.insertAll routes).size = (routes.eraseDups.take maxCode).length := by
        rw [← ih]
        rfl
      generalize outcome : (empty.insertAll routes).insert route = result
      have inserting := inserting (empty.insertAll routes) route
      rw [outcome] at inserting
      cases inserting with
      | known found =>
          have mem : route ∈ routes.eraseDups.take maxCode := by
            by_contra absent
            rw [held.mpr absent] at found
            cases found
          rw [if_pos (List.mem_eraseDups.mp (List.mem_of_mem_take mem)), ih]
      | new absent room joined =>
          rw [length, List.length_take] at room
          have all : routes.eraseDups.take maxCode = routes.eraseDups :=
            List.take_of_length_le (by omega)
          have fresh : route ∉ routes := by
            rw [held, all, List.mem_eraseDups] at absent
            exact absent
          rw [if_neg fresh, joined, ih, all]
          refine (List.take_of_length_le ?_).symm
          rw [List.length_append, List.length_singleton]
          omega
      | full absent filled =>
          rw [length, List.length_take] at filled
          rw [ih]
          split
          · rfl
          · exact (List.take_append_of_le_length (by omega)).symm

/-- **A dictionary is a bijection that only grows.** Of the routes that were ever inserted take the
different ones in the order of their first insertion, as many as two octets count. The dictionary gives the
first of them code one, the next code two and so on, and nothing else has a code or belongs to one. Another
insertion of one of these routes finds its code and changes nothing. A new route gets the next code, unless
all codes are taken: then it is refused, and nothing changes either. No code is ever lost. -/
theorem bijection_of_insertions (inserted : List String) :
    let d : RouteDictionary := empty.insertAll inserted
    let held := inserted.eraseDups.take 65535
    (∀ route code, d.code? route = some code ↔ ∃ k, code = k + 1 ∧ held[k]? = some route) ∧
      (∀ code, d.route? code = if code = 0 then none else held[code - 1]?) ∧
      (∀ route code, d.code? route = some code ↔ d.route? code = some route) ∧
      d.size = held.length ∧
      (∀ route ∈ held, ∃ code, d.code? route = some code ∧ d.insert route = (d, .ok code)) ∧
      (∀ route ∉ held, if held.length = 65535 then d.insert route = (d, .error ⟨route⟩)
        else (d.insert route).2 = .ok (held.length + 1)) ∧
      ∀ route code, d.code? route = some code →
        ∀ more, (d.insertAll more).code? route = some code := by
  intro d held
  have routes : d.routes.toList = held := routes_of_insertions inserted
  have length : d.size = held.length := by
    rw [← routes]
    rfl
  refine ⟨?_, ?_, d.code?_eq_some_iff, length, ?_, ?_, ?_⟩
  · intro route code
    cases code with
    | zero =>
        constructor
        · intro found
          exact absurd found (d.positive route)
        · rintro ⟨k, none, -⟩
          cases none
    | succ k => simp [code?_succ_eq_some_iff, routes]
  · intro code
    cases code with
    | zero => rfl
    | succ k =>
        rw [if_neg (Nat.succ_ne_zero k), ← routes, Array.getElem?_toList]
        rfl
  · intro route mem
    have inserting := d.inserting route
    generalize d.insert route = result at inserting
    cases inserting with
    | known found => exact ⟨_, found, rfl⟩
    | new absent | full absent =>
        rw [code?_eq_none_iff, routes] at absent
        exact absurd mem absent
  · intro route absent
    have inserting := d.inserting route
    generalize d.insert route = result at inserting
    rw [← routes, ← code?_eq_none_iff] at absent
    cases inserting with
    | known found =>
        rw [found] at absent
        cases absent
    | new _ room _ =>
        have unfilled : held.length ≠ 65535 := Nat.ne_of_lt (length ▸ room)
        rw [if_neg unfilled, length]
    | full _ filled =>
        have full : held.length = 65535 := length ▸ filled
        rw [if_pos full]
  · intro route code found more
    exact Grows.code? ⟨more, rfl⟩ found

end Connector.RouteDictionary
