import Docket.Expression.Rules
import Docket.Json.Decoder

/-!
# Settings

How the engine works and where the services are that after-jobs turn to.  Every setting has a
default, so no settings at all are settings too.
-/

namespace Docket

/-- How the engine works. -/
structure EngineSettings where
  /-- The number of moves after which a pass is cut short. -/
  maxHops : Nat
  /-- Whether the rules of a dispatch take a number and a text that looks like it for the same. -/
  coercion : Bool
  /-- Whether notifications are left to after-jobs. -/
  deferNotifications : Bool
  /-- How many expressions are kept ready. -/
  cacheCapacity : Nat
  /-- The variables that expressions may name; all if there is no list. -/
  declared : Option (List String)
  deriving DecidableEq, Repr

/-- Where the services are. -/
structure GatewaySettings where
  portal : Option String
  sms : Option String
  identity : Option String
  /-- How many seconds a service has for an answer. -/
  timeout : Nat
  deriving DecidableEq, Repr

/-- All settings. -/
structure Settings where
  engine : EngineSettings
  gateway : GatewaySettings
  deriving DecidableEq, Repr

namespace EngineSettings

def default : EngineSettings :=
  { maxHops := 20, coercion := true, deferNotifications := false, cacheCapacity := 1024,
    declared := none }

/-- The variables that expressions may name. -/
def catalogue (s : EngineSettings) : Expression.Catalogue :=
  match s.declared with
  | some names => .declared names
  | none => .free

def rules (s : EngineSettings) : Expression.Rules := ⟨s.catalogue, .builtin⟩

def fields : Decoder.Fields EngineSettings := do
  return {
    maxHops := ← Decoder.fieldOr "max_hops" Decoder.nat64 default.maxHops
    coercion := ← Decoder.fieldOr "dispatch_coercion" Decoder.flag default.coercion
    deferNotifications := ← Decoder.fieldOr "defer_notifications" Decoder.flag
      default.deferNotifications
    cacheCapacity := ← Decoder.fieldOr "expression_cache_capacity" Decoder.nat64
      default.cacheCapacity
    declared := ← Decoder.fieldOrNone "declared_variables" (Decoder.list Decoder.text) }

def decode : Decoder EngineSettings := Decoder.record fields

def toJson (s : EngineSettings) : Json :=
  Json.object [("max_hops", .nat s.maxHops), ("dispatch_coercion", .bool s.coercion),
    ("defer_notifications", .bool s.deferNotifications),
    ("expression_cache_capacity", .nat s.cacheCapacity),
    ("declared_variables", match s.declared with | some names => .texts names | none => .null)]

end EngineSettings

namespace GatewaySettings

def default : GatewaySettings := { portal := none, sms := none, identity := none, timeout := 10 }

def fields : Decoder.Fields GatewaySettings := do
  return {
    portal := ← Decoder.fieldOrNone "portal_url" Decoder.text
    sms := ← Decoder.fieldOrNone "sms_url" Decoder.text
    identity := ← Decoder.fieldOrNone "idp_url" Decoder.text
    timeout := ← Decoder.fieldOr "timeout_secs" Decoder.nat64 default.timeout }

def decode : Decoder GatewaySettings := Decoder.record fields

def toJson (s : GatewaySettings) : Json :=
  Json.object [("portal_url", .text? s.portal), ("sms_url", .text? s.sms),
    ("idp_url", .text? s.identity), ("timeout_secs", .nat s.timeout)]

end GatewaySettings

namespace Settings

def default : Settings := ⟨.default, .default⟩

/-- Reads all settings as a file gives them, where a section may list more values than it has. -/
def decode : Decoder Settings := Decoder.record do
  return {
    engine := ← Decoder.fieldOr "engine" (Decoder.recordAtFront EngineSettings.fields) .default
    gateway := ← Decoder.fieldOr "gateway" (Decoder.recordAtFront GatewaySettings.fields) .default }

/-- The settings with which records are served: notifications are always deferred. -/
def forServing (s : Settings) : Settings :=
  { s with engine := { s.engine with deferNotifications := true } }

end Settings
end Docket
