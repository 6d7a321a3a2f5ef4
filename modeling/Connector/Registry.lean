import Connector.Candidate
import Connector.RouteDictionary
import Connector.Text.Quoted

/-! The registry of services: which methods can be called, how often each was, and the codes of their routes.

- `Registry.register`: adds a component's service, or says why not and leaves the registry as it is.
- `Registry.check`, `Registry.commit`: the two steps of a registration that see the registry.
- `Registry.find?`, `Registry.calls?`, `Registry.routes`: what is registered. -/

namespace Connector

/-- `calls` counts in 64 bits. After the largest number it starts again. -/
structure Entry (μ : Type) where
  name : String
  method : μ
  calls : UInt64

structure Service (μ : Type) where
  name : String
  typeName : String
  entries : List (Entry μ)

/-- Services stand in the order of their registration, the entries of each by name. -/
structure Registry (μ : Type) where
  serverType : String
  services : List (Service μ)
  dictionary : RouteDictionary

namespace Registry

variable {μ : Type}

def empty (serverType : String) : Registry μ := ⟨serverType, [], .empty⟩

def service? (r : Registry μ) (name : String) : Option (Service μ) :=
  r.services.find? (·.name == name)

def serves (r : Registry μ) (name : String) : Bool := (r.service? name).isSome

def find? (r : Registry μ) (service method : String) : Option (Entry μ) :=
  (r.service? service).bind fun s => s.entries.find? (·.name == method)

def calls? (r : Registry μ) (service method : String) : Option UInt64 :=
  (r.find? service method).map (·.calls)

/-- Every service with a method, in byte order. -/
def routes (r : Registry μ) : List String :=
  (r.services.flatMap fun s => s.entries.map fun e => s.name ++ "." ++ e.name).mergeSort
    fun a b => decide (a ≤ b)

/-- One call more for a method. -/
def count (r : Registry μ) (service method : String) : Registry μ :=
  let bump (e : Entry μ) : Entry μ := if e.name = method then { e with calls := e.calls + 1 } else e
  { r with
    services := r.services.map fun s =>
      if s.name = service then { s with entries := s.entries.map bump } else s }

def dump (r : Registry μ) : List Log :=
  Log.inOrder <| r.services.flatMap fun s =>
    s.entries.map fun e => .info s!"registered service: {s.name}.{e.name} ({s.typeName})"

/-! ## Registration -/

/-- The name under which a type would serve. -/
def check (r : Registry μ) (typeName : String) : Except RegistrationError String :=
  let name := serviceName typeName
  if name.isEmpty then .error (.emptyName typeName)
  else if !isExported name then .error (.notExported name)
  else if r.serves name then .error (.duplicate name)
  else .ok name

def methodRoute (r : Registry μ) (service method : String) : String :=
  r.serverType ++ "." ++ service ++ "." ++ method

/-- Codes for the methods of a service, in order, with a warning for each that gets none. -/
def assignCodes (r : Registry μ) (service : String) (methods : List String) :
    RouteDictionary × List Log :=
  methods.foldl
    (fun (dictionary, warnings) method =>
      match dictionary.insert (r.methodRoute service method) with
      | (dictionary, .ok _) => (dictionary, warnings)
      | (dictionary, .error e) =>
          (dictionary,
            warnings.push (.warn s!"route {service}.{method} stays uncompressed: {e.toError.message}")))
    (r.dictionary, (#[] : Array Log))
  |>.map id Array.toList

/-- The duplicate check comes again: another registration may have come in between. -/
def commit (r : Registry μ) (name typeName : String) (table : List (String × μ)) :
    Except RegistrationError (Registry μ × List Log) :=
  if r.serves name then .error (.duplicate name)
  else
    let (dictionary, warnings) := r.assignCodes name (table.map (·.1))
    let service : Service μ := ⟨name, typeName, table.map fun (method, run) => ⟨method, run, 0⟩⟩
    .ok ({ r with services := r.services ++ [service], dictionary }, warnings)

/-- A registration that was tried: the registry after it, how it went, whether the candidates were looked
at, and what was said. -/
structure Attempt (μ : Type) where
  registry : Registry μ
  result : Except RegistrationError Unit
  listed : Bool
  logs : List Log

def register (r : Registry μ) (typeName : String) (candidates : List (Candidate μ)) : Attempt μ :=
  match r.check typeName with
  | .error e => ⟨r, .error e, false, []⟩
  | .ok name =>
      let skipped := Candidate.skipLogs name candidates
      match Candidate.table candidates with
      | [] =>
          let e := if Candidate.anyExclusive candidates then RegistrationError.exclusiveReceiver name
            else .noSuitableMethods name
          ⟨r, .error e, true, skipped⟩
      | table =>
          match r.commit name typeName table with
          | .error e => ⟨r, .error e, true, skipped⟩
          | .ok (registry, warnings) => ⟨registry, .ok (), true, skipped ++ warnings ++ registry.dump⟩

/-- Runs the component's set-up hook first. -/
def registerComponent {σ : Type} (r : Registry μ) (c : Component σ μ) : Attempt μ :=
  r.register c.typeName c.listed

def describe (r : Registry μ) : String :=
  "HandlerService \x7b server_type: " ++ Text.quoted r.serverType ++ ", routes: [" ++
    String.intercalate ", " (r.routes.map Text.quoted) ++ "] \x7d"

end Registry

end Connector
