import Std.Data.HashMap
import Connector.Error

/-! Route dictionaries: short codes for routes. Codes count from one in the order of first insertion, and two
octets must hold them.

- `RouteDictionary.insert`: the code of a route, a new one if it has none and the dictionary is not full.
- `RouteDictionary.code?`, `RouteDictionary.route?`: look-up in both directions.
- `RouteDictionary.code?_eq_some_iff`: the two look-ups are inverse to each other. -/

namespace Connector

/-- The largest code that two octets hold. -/
def RouteDictionary.maxCode : Nat := 65535

/-- `routes` lists the routes by code, `codes` finds the code of a route. -/
structure RouteDictionary where
  routes : Array String
  codes : Std.HashMap String Nat
  indexed : ∀ (r : String) (k : Nat), codes[r]? = some (k + 1) ↔ routes[k]? = some r
  positive : ∀ r : String, codes[r]? ≠ some 0
  bounded : routes.size ≤ RouteDictionary.maxCode

/-- There is no code left for the route. -/
structure DictionaryFull where
  route : String
  deriving DecidableEq, Repr

def DictionaryFull.toError (e : DictionaryFull) : Error :=
  .illegalState s!"route dictionary is full, cannot add {e.route}"

namespace RouteDictionary

def empty : RouteDictionary where
  routes := #[]
  codes := ∅
  indexed := by simp
  positive := by simp
  bounded := by simp

instance : Inhabited RouteDictionary := ⟨empty⟩

def code? (d : RouteDictionary) (route : String) : Option Nat := d.codes[route]?

def route? (d : RouteDictionary) : Nat → Option String
  | 0 => none
  | k + 1 => d.routes[k]?

def size (d : RouteDictionary) : Nat := d.routes.size

/-- The routes with their codes, by code. -/
def entries (d : RouteDictionary) : List (String × Nat) := d.routes.toList.zipIdx 1

theorem code?_eq_some_iff (d : RouteDictionary) (r : String) (k : Nat) :
    d.code? r = some k ↔ d.route? k = some r := by
  cases k with
  | zero => simpa [code?, route?] using d.positive r
  | succ k => exact d.indexed r k

theorem code_le_size {d : RouteDictionary} {r : String} {k : Nat} (h : d.code? r = some k) :
    k ≤ d.size := by
  cases k with
  | zero => exact Nat.zero_le _
  | succ k =>
      have := (d.indexed r k).1 h
      obtain ⟨lt, _⟩ := Array.getElem?_eq_some_iff.1 this
      exact lt

/-- The dictionary with one route more, which it did not hold. The new code is asked for beforehand. -/
def add (d : RouteDictionary) (route : String) (code : Nat) (new : d.codes[route]? = none)
    (next : code = d.routes.size + 1) (fits : code ≤ maxCode) : RouteDictionary where
  routes := d.routes.push route
  codes := d.codes.insert route code
  indexed r k := by
    subst next
    rw [Std.HashMap.getElem?_insert, Array.getElem?_push]
    by_cases hr : route = r
    · subst hr
      by_cases hk : k = d.routes.size
      · simp [hk]
      · have : ¬ d.routes[k]? = some route := fun h => by
          have := (d.indexed route k).2 h
          simp [new] at this
        simp [hk, this]; omega
    · have hne : ¬ r = route := fun h => hr h.symm
      by_cases hk : k = d.routes.size
      · subst hk
        have := d.indexed r d.routes.size
        simp_all
      · simpa [hr, hk] using d.indexed r k
  positive r := by
    subst next
    rw [Std.HashMap.getElem?_insert]
    split
    · simp
    · exact d.positive r
  bounded := by rw [Array.size_push]; omega

def insert (d : RouteDictionary) (route : String) : RouteDictionary × Except DictionaryFull Nat :=
  match h : d.codes[route]? with
  | some code => (d, .ok code)
  | none =>
      let code := d.size + 1
      if fits : code ≤ maxCode then (d.add route code h rfl fits, .ok code) else (d, .error ⟨route⟩)

/-- Insertion of several routes, in order. Those that find the dictionary full stay out. -/
def insertAll (d : RouteDictionary) (routes : List String) : RouteDictionary :=
  routes.foldl (fun d route => (d.insert route).1) d

end RouteDictionary

end Connector
