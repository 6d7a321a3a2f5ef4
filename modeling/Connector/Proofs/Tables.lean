import Connector.Candidate

/-! Tables of methods: what becomes of a component's candidates.

* `find?_of_nodup_key`: what is found by its key in a table without repetitions;
* `Candidate.Binds`: of the candidates that can be called by a name the last one counts;
* `Candidate.mem_table_iff`: the table binds a name as its candidates do;
* `Candidate.pairwise_table`: it has each name once, and the names are in order;
* `Candidate.mem_names_iff`, `Candidate.names_congr`: they are the names by which some candidate can be
  called, however the candidates are listed. -/

namespace Connector

/-- Where no key stands twice, an item is found by its own. -/
theorem find?_of_nodup_key {α β : Type} [BEq β] [LawfulBEq β] {key : α → β} {items : List α}
    (nodup : (items.map key).Nodup) {a : α} (mem : a ∈ items) :
    items.find? (key · == key a) = some a := by
  induction items with
  | nil => cases mem
  | cons first rest ih =>
      obtain ⟨new, nodup⟩ := List.nodup_cons.mp nodup
      rcases List.mem_cons.mp mem with rfl | mem
      · simp
      · have other : key first ≠ key a := fun same => new (same ▸ List.mem_map_of_mem mem)
        rw [List.find?_cons_of_neg (by simpa using other)]
        exact ih nodup mem

namespace Candidate

variable {μ ν : Type}

/-- The candidate can be called by a name, and runs a method then. -/
def Offers (c : Candidate μ) (name : String) (method : μ) : Prop :=
  c.name = name ∧ c.exported = true ∧ c.shape = .handler method

/-- Of the candidates that can be called by a name the last one runs. -/
def Binds (candidates : List (Candidate μ)) (name : String) (method : μ) : Prop :=
  ∃ before c after, candidates = before ++ c :: after ∧ c.Offers name method ∧
    ∀ other ∈ after, ∀ method, ¬ other.Offers name method

theorem binding?_eq_some_iff {c : Candidate μ} {pair : String × μ} :
    c.binding? = some pair ↔ c.Offers pair.1 pair.2 := by
  obtain ⟨name, shape⟩ := c
  obtain ⟨called, method⟩ := pair
  unfold binding? Offers
  cases shape with
  | handler m => simp [Shape.method?, and_left_comm]
  | exclusive | sessionOnly | bodyOnly => simp [Shape.method?]

/-! ## Neighbours -/

/-- Whatever is kept first has the first name. -/
theorem lastOfEach_cons (pair : String × μ) (rest : List (String × μ)) :
    ∃ first kept, lastOfEach (pair :: rest) = first :: kept ∧ first.1 = pair.1 := by
  rw [lastOfEach, List.foldr_cons]
  split
  · exact ⟨pair, [], rfl, rfl⟩
  · next next kept found =>
      split
      · next same => exact ⟨next, kept, found, same.symm⟩
      · exact ⟨pair, _, rfl, rfl⟩

theorem lastOfEach_cons_cons (pair next : String × μ) (rest : List (String × μ)) :
    lastOfEach (pair :: next :: rest) =
      if pair.1 = next.1 then lastOfEach (next :: rest) else pair :: lastOfEach (next :: rest) := by
  obtain ⟨first, kept, known, same⟩ := lastOfEach_cons next rest
  rw [lastOfEach, List.foldr_cons, ← lastOfEach, known]
  simp only [same]

theorem mem_of_mem_lastOfEach {pairs : List (String × μ)} {p : String × μ} (h : p ∈ lastOfEach pairs) :
    p ∈ pairs := by
  induction pairs with
  | nil => cases h
  | cons pair rest ih =>
      cases rest with
      | nil => exact h
      | cons next rest =>
          rw [lastOfEach_cons_cons] at h
          split at h
          · exact List.mem_cons_of_mem _ (ih h)
          · rcases List.mem_cons.mp h with rfl | later
            · exact List.mem_cons_self
            · exact List.mem_cons_of_mem _ (ih later)

/-- In order of their names. Several may share one. -/
def Ordered (pairs : List (String × μ)) : Prop := pairs.Pairwise fun a b => a.1 ≤ b.1

/-- Of pairs in order, the first is before all others unless it shares its name with the next. -/
theorem Ordered.before {pair next : String × μ} {rest : List (String × μ)}
    (ordered : Ordered (pair :: next :: rest)) (other : pair.1 ≠ next.1) :
    ∀ p ∈ next :: rest, pair.1 < p.1 := by
  obtain ⟨first, ordered⟩ := List.pairwise_cons.mp ordered
  obtain ⟨second, -⟩ := List.pairwise_cons.mp ordered
  have ahead : pair.1 < next.1 :=
    String.not_le.mp fun back => other (String.le_antisymm (first next List.mem_cons_self) back)
  intro p mem
  rcases List.mem_cons.mp mem with rfl | later
  · exact ahead
  · exact String.not_le.mp fun back => String.not_le.mpr ahead (String.le_trans (second p later) back)

theorem pairwise_lastOfEach {pairs : List (String × μ)} (ordered : Ordered pairs) :
    (lastOfEach pairs).Pairwise fun a b => a.1 < b.1 := by
  induction pairs with
  | nil => exact .nil
  | cons pair rest ih =>
      cases rest with
      | nil => exact List.pairwise_singleton _ pair
      | cons next rest =>
          have later := ih ordered.of_cons
          rw [lastOfEach_cons_cons]
          split
          · exact later
          · next other =>
              exact .cons (fun p mem => ordered.before other p (mem_of_mem_lastOfEach mem)) later

/-- Of each name the last pair is kept. -/
theorem mem_lastOfEach_iff {pairs : List (String × μ)} (ordered : Ordered pairs) (p : String × μ) :
    p ∈ lastOfEach pairs ↔ (pairs.filter (·.1 == p.1)).getLast? = some p := by
  induction pairs with
  | nil => simp [lastOfEach]
  | cons pair rest ih =>
      cases rest with
      | nil =>
          have alone : lastOfEach [pair] = [pair] := rfl
          rw [alone, List.mem_singleton]
          by_cases named : pair.1 = p.1
          · simp [named, eq_comm]
          · have other : p ≠ pair := fun same => named (congrArg Prod.fst same.symm)
            simp [named, other]
      | cons next rest =>
          have later := ih ordered.of_cons
          rw [lastOfEach_cons_cons]
          by_cases shared : pair.1 = next.1
          · rw [if_pos shared, later]
            by_cases named : next.1 = p.1
            · simp [shared, named]
            · simp [shared, named]
          · have before := ordered.before shared
            rw [if_neg shared, List.mem_cons, later]
            by_cases named : pair.1 = p.1
            · have none : (next :: rest).filter (·.1 == p.1) = [] := by
                refine List.filter_eq_nil_iff.mpr fun q mem same => ?_
                have ahead := before q mem
                rw [named, beq_iff_eq.mp same] at ahead
                exact String.lt_irrefl _ ahead
              have first : (pair :: next :: rest).filter (·.1 == p.1) = [pair] := by
                rw [List.filter_cons_of_pos (by simpa using named), none]
              rw [none, first]
              simp [eq_comm]
            · have skipped : (pair :: next :: rest).filter (·.1 == p.1) =
                  (next :: rest).filter (·.1 == p.1) :=
                List.filter_cons_of_neg (by simpa using named)
              rw [skipped]
              refine or_iff_right fun same => named (congrArg Prod.fst same.symm)

/-! ## Tables -/

theorem le_trans_of_name (a b c : String × μ) (h : decide (a.1 ≤ b.1) = true)
    (h' : decide (b.1 ≤ c.1) = true) : decide (a.1 ≤ c.1) = true := by
  rw [decide_eq_true_eq] at h h' ⊢
  exact String.le_trans h h'

theorem le_total_of_name (a b : String × μ) :
    (decide (a.1 ≤ b.1) || decide (b.1 ≤ a.1)) = true := by
  rw [Bool.or_eq_true, decide_eq_true_eq, decide_eq_true_eq]
  exact String.le_total a.1 b.1

theorem ordered_mergeSort (pairs : List (String × μ)) :
    Ordered (pairs.mergeSort fun a b => decide (a.1 ≤ b.1)) :=
  (List.pairwise_mergeSort le_trans_of_name le_total_of_name pairs).imp of_decide_eq_true

/-- Pairs of one name keep their order when they are sorted. -/
theorem filter_mergeSort (pairs : List (String × μ)) (name : String) :
    (pairs.mergeSort fun a b => decide (a.1 ≤ b.1)).filter (·.1 == name) =
      pairs.filter (·.1 == name) := by
  have equal : (pairs.filter (·.1 == name)).Pairwise fun a b => decide (a.1 ≤ b.1) = true := by
    refine List.pairwise_of_forall_mem_list fun a mem b mem' => ?_
    have same : a.1 = b.1 :=
      (beq_iff_eq.mp (List.mem_filter.mp mem).2).trans (beq_iff_eq.mp (List.mem_filter.mp mem').2).symm
    exact decide_eq_true (same ▸ String.le_refl a.1)
  have kept := List.sublist_mergeSort le_trans_of_name le_total_of_name equal List.filter_sublist
  have inside := kept.filter (·.1 == name)
  rw [List.filter_filter] at inside
  simp only [Bool.and_self] at inside
  have perm := (List.mergeSort_perm pairs fun a b => decide (a.1 ≤ b.1)).filter (·.1 == name)
  exact (inside.eq_of_length perm.length_eq.symm).symm

/-- What a candidate binds to a name. -/
def bindingOf? (name : String) (c : Candidate μ) : Option (String × μ) :=
  c.binding?.filter (·.1 == name)

theorem bindingOf?_eq_some_iff {name : String} {c : Candidate μ} {p : String × μ} :
    c.bindingOf? name = some p ↔ p.1 = name ∧ c.Offers name p.2 := by
  rw [bindingOf?, Option.filter_eq_some_iff, binding?_eq_some_iff, beq_iff_eq]
  constructor
  · rintro ⟨offers, rfl⟩
    exact ⟨rfl, offers⟩
  · rintro ⟨rfl, offers⟩
    exact ⟨offers, rfl⟩

theorem Offers.bindingOf? {name : String} {method : μ} {c : Candidate μ} (h : c.Offers name method) :
    c.bindingOf? name = some (name, method) := bindingOf?_eq_some_iff.mpr ⟨rfl, h⟩

theorem binds_iff {candidates : List (Candidate μ)} {name : String} {method : μ} :
    Binds candidates name method ↔
      (candidates.filterMap (Candidate.bindingOf? name)).getLast? = some (name, method) := by
  rw [List.getLast?_eq_some_iff]
  constructor
  · rintro ⟨before, c, after, rfl, offers, others⟩
    have none : after.filterMap (Candidate.bindingOf? name) = [] := by
      refine List.filterMap_eq_nil_iff.mpr fun other mem => Option.eq_none_iff_forall_ne_some.mpr ?_
      intro p bound
      exact others other mem p.2 (bindingOf?_eq_some_iff.mp bound).2
    refine ⟨before.filterMap (Candidate.bindingOf? name), ?_⟩
    rw [List.filterMap_append, List.filterMap_cons_some offers.bindingOf?, none]
  · rintro ⟨earlier, split⟩
    obtain ⟨before, rest, rfl, -, last⟩ := List.filterMap_eq_append_iff.mp split
    obtain ⟨skipped, c, after, rfl, -, bound, none⟩ := List.filterMap_eq_cons_iff.mp last
    refine ⟨before ++ skipped, c, after, by simp, (bindingOf?_eq_some_iff.mp bound).2, ?_⟩
    intro other mem method offers
    have unbound := List.filterMap_eq_nil_iff.mp none other mem
    rw [offers.bindingOf?] at unbound
    cases unbound

/-- A table runs for each name the last candidate that can be called by it. -/
theorem mem_table_iff (candidates : List (Candidate μ)) (name : String) (method : μ) :
    (name, method) ∈ table candidates ↔ Binds candidates name method := by
  rw [table, mem_lastOfEach_iff (ordered_mergeSort _), filter_mergeSort, List.filter_filterMap, binds_iff]
  rfl

theorem pairwise_table (candidates : List (Candidate μ)) :
    (table candidates).Pairwise fun a b => a.1 < b.1 :=
  pairwise_lastOfEach (ordered_mergeSort _)

/-! ## Names -/

/-- The names by which some candidate can be called. -/
def names (candidates : List (Candidate μ)) : List String := (table candidates).map (·.1)

theorem pairwise_names (candidates : List (Candidate μ)) : (names candidates).Pairwise (· < ·) :=
  List.pairwise_map.mpr (pairwise_table candidates)

/-- Some candidate can be called by the name. -/
def Offered (candidates : List (Candidate μ)) (name : String) : Prop :=
  ∃ c ∈ candidates, ∃ method, c.Offers name method

theorem exists_binds_iff (candidates : List (Candidate μ)) (name : String) :
    (∃ method, Binds candidates name method) ↔ Offered candidates name := by
  constructor
  · rintro ⟨method, before, c, after, rfl, offers, -⟩
    exact ⟨c, by simp, method, offers⟩
  · rintro ⟨c, mem, method, offers⟩
    have found : (name, method) ∈ candidates.filterMap (bindingOf? name) :=
      List.mem_filterMap.mpr ⟨c, mem, offers.bindingOf?⟩
    obtain ⟨last, known⟩ := Option.isSome_iff_exists.mp (List.getLast?_isSome.mpr (List.ne_nil_of_mem found))
    obtain ⟨other, -, bound⟩ := List.mem_filterMap.mp (List.mem_of_getLast? known)
    have named : last = (name, last.2) := Prod.ext (bindingOf?_eq_some_iff.mp bound).1 rfl
    exact ⟨last.2, binds_iff.mpr (named ▸ known)⟩

theorem mem_names_iff (candidates : List (Candidate μ)) (name : String) :
    name ∈ names candidates ↔ Offered candidates name := by
  rw [← exists_binds_iff, names, List.mem_map]
  constructor
  · rintro ⟨⟨called, method⟩, mem, rfl⟩
    exact ⟨method, (mem_table_iff ..).mp mem⟩
  · rintro ⟨method, binds⟩
    exact ⟨(name, method), (mem_table_iff ..).mpr binds, rfl⟩

/-- The names are sorted, so nothing but the set of them matters. -/
theorem names_congr {candidates : List (Candidate μ)} {others : List (Candidate ν)}
    (same : ∀ name, Offered candidates name ↔ Offered others name) : names candidates = names others := by
  have sorted := pairwise_names candidates
  have sorted' := pairwise_names others
  have distinct {a b : String} (h : a < b) : a ≠ b := fun equal => String.lt_irrefl b (equal ▸ h)
  have perm : (names candidates).Perm (names others) := by
    rw [List.perm_ext_iff_of_nodup (sorted.imp distinct) (sorted'.imp distinct)]
    intro name
    rw [mem_names_iff, mem_names_iff]
    exact same name
  exact perm.eq_of_pairwise (fun a b _ _ h h' => absurd h' (String.lt_asymm h)) sorted sorted'

theorem table_eq_nil_iff (candidates : List (Candidate μ)) :
    table candidates = [] ↔ ∀ c ∈ candidates, ∀ name method, ¬ c.Offers name method := by
  rw [← List.map_eq_nil_iff (f := Prod.fst), List.eq_nil_iff_forall_not_mem]
  constructor
  · intro none c mem name method offers
    exact none name ((mem_names_iff ..).mpr ⟨c, mem, method, offers⟩)
  · intro none name mem
    obtain ⟨c, mem, method, offers⟩ := (mem_names_iff ..).mp mem
    exact none c mem name method offers

end Candidate

end Connector
