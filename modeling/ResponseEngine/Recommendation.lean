/-
  Recommendation.lean --- translation of a detection engine's recommendation.

  `translateRecommendation` maps a recommendation action onto the closed set and
  builds the command target, or produces nothing.  With an endpoint context the
  target comes from `canonicalProcessTarget`, which requires three independently
  supplied dicts to agree.
-/
import ResponseEngine.LinuxIdentity
import ResponseEngine.Contract.ClosedTarget

set_option autoImplicit false

namespace ResponseEngine.Recommendation

open ResponseEngine.Foundation ResponseEngine.Python ResponseEngine.Contract
open ResponseEngine.LinuxIdentity

/-! ## The canonical process target -/

/-- `str(len(field.encode("utf-8"))) + ":" + field`. -/
def nativeField (field : Text) : Except PyError Text := do
  let bytes ← encode field
  return Text.ofNat bytes.length ++ ((":" : Text) ++ field)

/-- The entity id that the native-digest model requires of a process. -/
def nativeEntityId (host boot : Text) (pid : Int) (ticks : Text) : Except PyError Text := do
  let fields : List Text := ["native-process-instance-v1", host, boot, Text.ofInt pid, ticks]
  let material := (← fields.mapM nativeField).flatten
  return ("proc_" : Text) ++ (← sha256Hex material)

/-- The entity proof that the context's identity model calls for. -/
def provesEntity (rt : Runtime) (context subject : Dict) (expected : Text) :
    Except PyError Bool :=
  if isText (Dict.get context "identity_model") identityModel then verifiedLinuxSubject rt context
  else return isText (Dict.get subject "entity_id") expected

/-- Whether the recommendation names exactly the verified process. -/
def namesProcess (recommendation : Dict) (host : Text) (pid ticks : Int) : Bool :=
  match Dict.get recommendation "target_pid",
      Dict.get recommendation "target_start_time_ticks" with
  | .int targetPid, .int observedTicks =>
      decide (targetPid = pid) && decide (observedTicks = ticks) &&
        isText (Dict.getD recommendation "host_id" (.str host)) host
  | _, _ => false

/-- `_canonical_process_target`. -/
def canonicalProcessTarget (rt : Runtime) (context : PyVal) (recommendation : Dict) :
    Except PyError (Option Dict) :=
  match context with
  | .dict context =>
      match Dict.get context "endpoint", Dict.get context "subject" with
      | .dict endpoint, .dict subject =>
          match Dict.get endpoint "host_id", Dict.get endpoint "boot_id",
              Dict.get subject "observed_pid", Dict.get subject "native_creation_ticks" with
          | .str host, .str boot, .int pid, .str ticks => do
              if host.isEmpty || !isBootId boot || !isText (Dict.get subject "boot_id") boot ||
                  !isText (Dict.get subject "resolution") "native_exact" ||
                  !(decide (0 < pid) && decide (pid ≤ maxPid)) || !isNativeTicks ticks then
                return none
              let n ← rt.int ticks
              if maxTicks < n then return none
              let expected ← nativeEntityId host boot pid ticks
              let proved ← provesEntity rt context subject expected
              if !proved || !namesProcess recommendation host pid n then return none
              return some
                [("pid", .int pid), ("start_time_ticks", .str ticks), ("boot_id", .str boot)]
          | _, _, _, _ => return none
      | _, _ => return none
  | _ => return none

/-! ## The translation -/

/-- `(command_action, target, decided_reason)`. -/
structure Translation where
  action : Text
  target : Dict
  reason : Text

/-- The schema-1 target of the two process recommendations. -/
def legacyProcessTarget (activeResponse : Dict) : Option Dict :=
  match Dict.get activeResponse "target_pid",
      Dict.get activeResponse "target_start_time_ticks" with
  | .int pid, .int startTimeTicks =>
      if startTimeTicks ≤ 0 then none
      else some [("pid", .int pid), ("start_time_ticks", .int startTimeTicks)]
  | _, _ => none

/-- The target of a quarantine recommendation. -/
def fileTarget (activeResponse : Dict) : Option Dict :=
  match Dict.get activeResponse "target_file" with
  | .str targetFile => if targetFile.isEmpty then none else some [("path", .str targetFile)]
  | _ => none

/-- `translate_recommendation`; the endpoint context defaults to `None`. -/
def translateRecommendation (rt : Runtime) (action : Text) (activeResponse : Dict)
    (endpointContext : PyVal) : Except PyError (Option Translation) :=
  let direct (command : Text) (target : Dict) : Translation :=
    { action := command, target, reason := "direct mapping" }
  if endpointContext.isNone = false ∧
      (action = "TERMINATE_PROCESS" ∨ action = "COLLECT_PROCESS_INFO")
  then do
    match ← canonicalProcessTarget rt endpointContext activeResponse with
    | none => return none
    | some target =>
        let mapped : Text := if action = "TERMINATE_PROCESS" then "KILL_PROCESS" else action
        return some
          { action := mapped, target, reason := "verified canonical native process target" }
  else if action = "TERMINATE_PROCESS" then
    return (legacyProcessTarget activeResponse).map (direct "KILL_PROCESS")
  else if action = "COLLECT_PROCESS_INFO" then
    return (legacyProcessTarget activeResponse).map (direct "COLLECT_PROCESS_INFO")
  else if action = "COLLECT_NETWORK_CONNECTIONS" then
    return some (direct "COLLECT_NETWORK_CONNECTIONS" [])
  else if action = "QUARANTINE_FILE" then
    return (fileTarget activeResponse).map (direct "QUARANTINE_FILE")
  else if action = "ISOLATE_HOST" then
    return some (direct "ISOLATE_HOST" [])
  -- every other recommendation, `BLOCK_FIREWALL_IP` among them, produces no command
  else return none

end ResponseEngine.Recommendation
