/-! The public vocabulary of failures. Each module has the causes of its own; here they meet as a class of
failure and a detail.

- `Error.message`: the wording of every failure.
- `RegistrationError.message`: the wording of a refused registration. -/

namespace Connector

/-- Why a component was not registered. All but `emptyName` carry the service name; that one carries the
type's full name. -/
inductive RegistrationError where
  | emptyName (typeName : String)
  | notExported (name : String)
  | duplicate (name : String)
  | exclusiveReceiver (name : String)
  | noSuitableMethods (name : String)
  deriving DecidableEq, Repr

namespace RegistrationError

def message : RegistrationError → String
  | emptyName typeName => s!"no service name for type {typeName}"
  | notExported name => s!"type {name} is not exported"
  | duplicate name => s!"service already defined: {name}"
  | exclusiveReceiver name =>
      s!"type {name} has no exported methods of suitable type " ++
        "(hint: methods take &mut self, handlers are shared so take &self and use interior mutability)"
  | noSuitableMethods name => s!"type {name} has no exported methods of suitable type"

end RegistrationError

inductive Error where
  | illegalState (detail : String)
  | malformedProtocol (detail : String)
  | invalidValue (detail : String)
  | detailedIo (detail : String)
  | io (detail : String)
  | channelSend (detail : String)
  | configFile
  | json
  | tracing (detail : String)
  | incomplete
  | packetTooLarge (detail : String)
  | registration (cause : RegistrationError)
  deriving DecidableEq, Repr

namespace Error

/-- The wording of a broken settings file or of broken JSON is its reader's own and not kept. -/
def message : Error → String
  | illegalState detail => s!"illegal state: {detail}"
  | malformedProtocol detail => s!"malformed protocol: {detail}"
  | invalidValue detail => s!"invalid value: {detail}"
  | detailedIo detail => s!"I/O error: {detail}"
  | io detail => s!"io error: {detail}"
  | channelSend detail => s!"channel send error: {detail}"
  | configFile => "config file error"
  | json => "json error"
  | tracing detail => s!"tracing setup error: {detail}"
  | incomplete => "incomplete packet"
  | packetTooLarge detail => s!"packet too large: {detail}"
  | registration cause => s!"handler registration failed: {cause.message}"

end Error

end Connector
