import SignedLedger.Config.Toml
import SignedLedger.Failure
import SignedLedger.Limits

namespace SignedLedger

structure Config where
  serviceName : String
  serviceVersion : String
  networkId : String
  sessionCapacity : Nat
  processorCapacity : Nat
  limits : Limits
  logLevel : String
  logJson : Bool
  deriving DecidableEq

namespace Config

def default : Config where
  serviceName := "operation-engine"
  serviceVersion := "0.1.0"
  networkId := "local-network"
  sessionCapacity := 16
  processorCapacity := 1024
  limits := Limits.default
  logLevel := "info"
  logJson := false

def validate (c : Config) : Except Fault Config :=
  if c.networkId.isEmpty then .error (.config .emptyNetwork)
  else if c.limits.maxItems = 0 ∨ c.limits.maxKeys = 0 then .error (.config .zeroLimits)
  else .ok c

abbrev Environment := List (String × String)

def Environment.find? (env : Environment) (name : String) : Option String :=
  (List.find? (fun entry => entry.1 = name) env).map Prod.snd

def capacityOf (text : String) : Except Fault Nat :=
  match Text.readWhole UInt64.size text.toList with
  | .ok n => .ok n
  | .error problem => .error (.config (.poolCapacity problem))

def isTrue (text : String) : Bool := text = "1" || text = "true" || text = "yes"

def ofEnvironment (env : Environment) : Except Fault Config := do
  let networkId := (env.find? "OPENGINE_NETWORK_ID").getD default.networkId
  let processorCapacity ← match env.find? "OPENGINE_PROCESSOR_POOL_CAPACITY" with
    | some text => capacityOf text
    | none => pure default.processorCapacity
  let logLevel := (env.find? "OPENGINE_LOG_LEVEL").getD default.logLevel
  let logJson := ((env.find? "OPENGINE_LOG_JSON").map isTrue).getD default.logJson
  validate { default with networkId, processorCapacity, logLevel, logJson }

def parts? (names : List String) : Toml → Option (List Toml)
  | .table fields => names.mapM fun name => (fields.find? fun field => field.1 = name).map Prod.snd
  | .list items => if names.length ≤ items.length then some (items.take names.length) else none
  | _ => none

def text? : Toml → Option String
  | .text s => some s
  | _ => none

def count? : Toml → Option Nat
  | .integer n => if 0 ≤ n then some n.toNat else none
  | _ => none

def bool? : Toml → Option Bool
  | .bool b => some b
  | _ => none

def limits? (toml : Toml) : Option Limits := do
  let found ← parts? ["max_items", "max_keys", "max_amounts_per_item", "max_did_methods"] toml
  match ← found.mapM count? with
  | [items, keys, amounts, methods] => some ⟨items, keys, amounts, methods⟩
  | _ => none

def pool? (toml : Toml) : Option (Nat × Nat) := do
  let found ← parts? ["orchestrator_capacity", "processor_capacity"] toml
  match ← found.mapM count? with
  | [sessions, processors] => some (sessions, processors)
  | _ => none

def logging? (toml : Toml) : Option (String × Bool) := do
  match ← parts? ["level", "json"] toml with
  | [level, json] => return (← text? level, ← bool? json)
  | _ => none

def ofToml? (toml : Toml) : Option Config := do
  match ← parts? ["service_name", "service_version", "network_id", "pool", "limits", "logging"] toml
  with
  | [name, version, network, pool, limits, logging] =>
    let (sessionCapacity, processorCapacity) ← pool? pool
    let (logLevel, logJson) ← logging? logging
    return {
      serviceName := ← text? name
      serviceVersion := ← text? version
      networkId := ← text? network
      sessionCapacity
      processorCapacity
      limits := ← limits? limits
      logLevel
      logJson }
  | _ => none

def ofText (text : String) : Except Fault Config :=
  match (Toml.read? text).bind fun fields => ofToml? (.table fields) with
  | none => .error (.config .unreadableText)
  | some config => config.validate

def ofFile (content : Option ByteArray) : Except Fault Config :=
  match content.bind String.fromUTF8? with
  | none => .error .io
  | some text => ofText text

end Config
end SignedLedger
