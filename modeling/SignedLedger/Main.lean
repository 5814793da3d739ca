import SignedLedger.Scenario

namespace SignedLedger

def settingNames : List String :=
  ["OPENGINE_NETWORK_ID", "OPENGINE_PROCESSOR_POOL_CAPACITY", "OPENGINE_LOG_LEVEL",
    "OPENGINE_LOG_JSON"]

def setting? (name : String) : IO (Option (String × String)) := do
  return (← IO.getEnv name).map fun value => (name, value)

def environment : IO Config.Environment := do
  return (← settingNames.mapM setting?).filterMap id

end SignedLedger

def main : IO UInt32 := do
  match SignedLedger.Scenario.report (← SignedLedger.environment) with
  | .ok lines =>
    lines.forM IO.println
    return 0
  | .error fault =>
    IO.eprintln s!"Error: {fault.message}"
    return 1
