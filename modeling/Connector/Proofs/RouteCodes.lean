import Connector.RouteDictionary

/-! Codes of routes stay what they are.

* `code_bounds`: a code is one that two octets hold, and not zero;
* `route?_insertAll`: insertions take no route from its code;
* `Grows`, `Grows.code?`: a dictionary that only grew still gives every code;
* `routes_insertAll`: routes that are all different get their codes in order, as long as there are any. -/

namespace Connector.RouteDictionary

theorem code_bounds {d : RouteDictionary} {route : String} {code : Nat}
    (h : d.code? route = some code) : 0 < code ∧ code ≤ maxCode := by
  constructor
  · rw [Nat.pos_iff_ne_zero]
    rintro rfl
    exact d.positive route h
  · exact Nat.le_trans (code_le_size h) d.bounded

theorem route?_add_of_some {d : RouteDictionary} {route known : String} {code k : Nat}
    (new : d.codes[route]? = none) (next : code = d.routes.size + 1) (fits : code ≤ maxCode)
    (h : d.route? k = some known) : (d.add route code new next fits).route? k = some known := by
  cases k with
  | zero => cases h
  | succ k =>
      obtain ⟨inside, -⟩ := Array.getElem?_eq_some_iff.mp h
      show (d.routes.push route)[k]? = some known
      rw [Array.getElem?_push, if_neg (by omega)]
      exact h

theorem route?_insert {d : RouteDictionary} {known : String} {k : Nat} (h : d.route? k = some known)
    (route : String) : (d.insert route).1.route? k = some known := by
  unfold insert
  split
  · exact h
  · next new =>
      by_cases fits : d.size + 1 ≤ maxCode
      · rw [dif_pos fits]
        exact route?_add_of_some new rfl fits h
      · rw [dif_neg fits]
        exact h

theorem route?_insertAll {d : RouteDictionary} {known : String} {k : Nat} (h : d.route? k = some known)
    (routes : List String) : (d.insertAll routes).route? k = some known := by
  induction routes generalizing d with
  | nil => exact h
  | cons route routes ih => exact ih (route?_insert h route)

theorem insertAll_append (d : RouteDictionary) (first later : List String) :
    d.insertAll (first ++ later) = (d.insertAll first).insertAll later := by
  unfold insertAll
  exact List.foldl_append

/-- What becomes of a dictionary by insertions. -/
def Grows (d later : RouteDictionary) : Prop := ∃ routes, later = d.insertAll routes

theorem Grows.refl (d : RouteDictionary) : d.Grows d := ⟨[], rfl⟩

theorem Grows.of_eq {d later : RouteDictionary} (same : later = d) : d.Grows later := same ▸ .refl d

theorem Grows.trans {d later last : RouteDictionary} (h : d.Grows later) (h' : later.Grows last) :
    d.Grows last := by
  obtain ⟨first, rfl⟩ := h
  obtain ⟨more, rfl⟩ := h'
  exact ⟨first ++ more, (insertAll_append d first more).symm⟩

theorem Grows.route? {d later : RouteDictionary} {route : String} {k : Nat} (h : d.Grows later)
    (known : d.route? k = some route) : later.route? k = some route := by
  obtain ⟨routes, rfl⟩ := h
  exact route?_insertAll known routes

theorem Grows.code? {d later : RouteDictionary} {route : String} {k : Nat} (h : d.Grows later)
    (known : d.code? route = some k) : later.code? route = some k := by
  rw [code?_eq_some_iff] at known ⊢
  exact h.route? known

/-! ## The routes in their order -/

theorem code?_succ_eq_some_iff (d : RouteDictionary) (route : String) (k : Nat) :
    d.code? route = some (k + 1) ↔ d.routes.toList[k]? = some route := by
  rw [Array.getElem?_toList]
  exact d.indexed route k

theorem code?_eq_none_iff (d : RouteDictionary) (route : String) :
    d.code? route = none ↔ route ∉ d.routes.toList := by
  rw [List.mem_iff_getElem?, Option.eq_none_iff_forall_ne_some, not_exists]
  constructor
  · intro none k
    rw [← code?_succ_eq_some_iff]
    exact none (k + 1)
  · intro absent code
    cases code with
    | zero => exact d.positive route
    | succ k =>
        rw [ne_eq, code?_succ_eq_some_iff]
        exact absent k

theorem insert_of_mem {d : RouteDictionary} {route : String} (known : route ∈ d.routes.toList) :
    (d.insert route).1 = d := by
  unfold insert
  split
  · rfl
  · next new => exact absurd known ((d.code?_eq_none_iff route).mp new)

/-- A new route gets the next place, if there is one. -/
theorem routes_insert_of_not_mem {d : RouteDictionary} {route : String}
    (new : route ∉ d.routes.toList) :
    (d.insert route).1.routes.toList = (d.routes.toList ++ [route]).take maxCode := by
  have bounded : d.routes.toList.length ≤ maxCode := d.bounded
  have unknown : d.codes[route]? = none := (d.code?_eq_none_iff route).mpr new
  unfold insert
  split
  · next known => rw [unknown] at known; cases known
  · by_cases fits : d.size + 1 ≤ maxCode
    · have longer : (d.routes.toList ++ [route]).length ≤ maxCode := by
        rw [List.length_append]
        exact fits
      rw [dif_pos fits, List.take_of_length_le longer]
      exact Array.toList_push
    · have full : d.routes.toList.length = maxCode := by
        have : d.routes.toList.length + 1 > maxCode := Nat.lt_of_not_le fits
        omega
      rw [dif_neg fits, List.take_append_of_le_length (Nat.le_of_eq full.symm), ← full, List.take_length]

/-- Insertions bring in nothing else. -/
theorem mem_routes_insertAll {d : RouteDictionary} {routes : List String} {route : String}
    (mem : route ∈ (d.insertAll routes).routes.toList) : route ∈ d.routes.toList ∨ route ∈ routes := by
  induction routes generalizing d with
  | nil => exact .inl mem
  | cons first routes ih =>
      have inserted : route ∈ (d.insert first).1.routes.toList ∨ route ∈ routes := ih mem
      rcases inserted with held | later
      · by_cases known : first ∈ d.routes.toList
        · rw [insert_of_mem known] at held
          exact .inl held
        · rw [routes_insert_of_not_mem known] at held
          rcases List.mem_append.mp (List.mem_of_mem_take held) with old | new
          · exact .inl old
          · exact .inr (List.mem_singleton.mp new ▸ List.mem_cons_self)
      · exact .inr (List.mem_cons_of_mem first later)

theorem take_take_append {α : Type} (n : Nat) (first later : List α) :
    (first.take n ++ later).take n = (first ++ later).take n := by
  rw [List.take_append, List.take_append, List.take_take, Nat.min_self, List.length_take]
  congr 2
  omega

/-- Of routes that are all different as many as there are codes get one, in their order. -/
theorem routes_insertAll {d : RouteDictionary} {routes : List String}
    (nodup : (d.routes.toList ++ routes).Nodup) :
    (d.insertAll routes).routes.toList = (d.routes.toList ++ routes).take maxCode := by
  induction routes generalizing d with
  | nil =>
      rw [List.append_nil]
      exact (List.take_of_length_le d.bounded).symm
  | cons route routes ih =>
      have new : route ∉ d.routes.toList := by
        intro mem
        exact (List.nodup_append.mp nodup).2.2 route mem route List.mem_cons_self rfl
      have inserted := routes_insert_of_not_mem new
      have moved : d.routes.toList ++ route :: routes = (d.routes.toList ++ [route]) ++ routes :=
        List.append_cons ..
      have kept : ((d.insert route).1.routes.toList ++ routes).Nodup := by
        rw [inserted]
        rw [moved] at nodup
        exact nodup.sublist ((List.take_sublist _ _).append_right routes)
      show ((d.insert route).1.insertAll routes).routes.toList = _
      rw [ih kept, inserted, take_take_append, moved]

end Connector.RouteDictionary
