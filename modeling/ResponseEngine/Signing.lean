/-
  Signing.lean --- the canonical signing bytes of a command.

  `signingInput` checks a closed envelope, revalidates the command inside it and
  writes twelve named, length-prefixed fields.  Whatever it cannot express is an
  `UnsignableCommand`.
-/
import ResponseEngine.Contract.ClosedTarget

set_option autoImplicit false

namespace ResponseEngine.Signing

open ResponseEngine.Foundation ResponseEngine.Python ResponseEngine.Contract

/-- `_DOMAIN`. -/
def domain : List UInt8 := Text.utf8 "panopticon-command-auth/1\n".toList

/-- `raise UnsignableCommand(message)`. -/
def unsignable {α : Type} (message : Text) : Except PyError α :=
  .error (.unsignableCommand message)

/-- `text[:-1] + "+00:00" if text.endswith(("Z", "z")) else text`. -/
def zuluOffset (text : Text) : Text :=
  if text.getLast? = some (.scalar 'Z') ∨ text.getLast? = some (.scalar 'z') then
    text.dropLast ++ ("+00:00" : Text)
  else text

/-- `epoch_seconds`. -/
def epochSeconds (rt : Runtime) : PyVal → Except PyError Int
  | .str text =>
      match rt.fromisoformat (zuluOffset text) with
      | some moment =>
          -- a time zone without an offset is refused like no time zone
          match moment.utcoffset with
          | some offset => do
              let seconds := Double.truncate (moment.replaceMicrosecondZero.timestamp offset)
              if seconds < 0 then
                unsignable (("time is before 1970: " : Text) ++ rt.repr (.str text))
              else return seconds
          | none => unsignable (("time has no UTC offset: " : Text) ++ rt.repr (.str text))
      | none => unsignable (("not an RFC 3339 time: " : Text) ++ rt.repr (.str text))
  | _ => unsignable "time is not a string"

/-- `_field`. -/
def field (name : String) (value : Text) : Except PyError (List UInt8) := do
  let data ← encode value
  return Text.utf8 name.toList ++ Text.utf8 [':'] ++ Text.utf8 (Decimal.digits data.length) ++
    Text.utf8 [':'] ++ data ++ Text.utf8 ['\n']

/-- `str(number)` of a number that is not negative, without the interpreter's limit on the
digits of the text. -/
def unsignedText (key : String) (number : Int) : Except PyError Text :=
  if number < 0 then unsignable (("target " : Text) ++ (key : Text) ++ (" is negative" : Text))
  else return Text.ofInt number

/-- `_unsigned`. -/
def unsigned (rt : Runtime) (target : Dict) (key : String) : Except PyError Text :=
  match Dict.getD target key (.int 0) with
  | .int number => unsignedText key number
  | .str text => do unsignedText key (← rt.int text)
  | _ => unsignable (("target " : Text) ++ (key : Text) ++ (" is not an integer" : Text))

/-- The entries a signed envelope must have. -/
def required : List Key :=
  ["schema_version", "command_id", "correlation_id", "agent_id", "host_id", "action", "created_at",
    "expires_at", "target"]

/-- The envelope has every required entry, and no other but `authorization`. -/
def isClosed (command : Dict) : Bool :=
  required.all (Dict.contains command) &&
    (Dict.keys command).all fun k => decide (k ∈ required) || decide (k = "authorization")

/-- `isinstance(host_id, str) and 1 <= len(host_id) <= 128`. -/
def isHostId : PyVal → Bool
  | .str t => decide (1 ≤ t.length) && decide (t.length ≤ 128)
  | _ => false

/-- The entries of an envelope that make up the command. -/
def commandEntries (command : Dict) : Dict :=
  command.filter fun entry =>
    decide (entry.1 ∉ (["host_id", "created_at", "authorization"] : List Key))

/-- `except ValueError as exc: raise UnsignableCommand(...) from exc`. -/
def orUnsignable {α : Type} (message : Text) : Except PyError α → Except PyError α
  | .ok a => .ok a
  | .error e => if e.isValueError then unsignable message else .error e

/-- `command.get("target") or {}`, which must be a dict. -/
def targetOf (command : Dict) : Except PyError Dict :=
  let target := Dict.get command "target"
  if target.truthy then
    match target with
    | .dict items => return items
    | _ => unsignable "target is not an object"
  else return []

/-- The twelve fields, in order. -/
def signedFields (rt : Runtime) (command target : Dict) (bootId path : Text) :
    Except PyError (List (String × PyVal)) := do
  raiseIf (!Dict.contains command "created_at")
    (.unsignableCommand "a signed command needs created_at")
  let version ← Dict.getItem command "schema_version"
  let expected : Text := if bootId.isEmpty then "1" else "2"
  raiseIf (!version.pyEq (.str expected))
    (.unsignableCommand "declared schema disagrees with target identity")
  let commandId ← Dict.getItem command "command_id"
  let correlationId ← Dict.getItem command "correlation_id"
  let agentId ← Dict.getItem command "agent_id"
  let hostId ← Dict.getItem command "host_id"
  let action ← Dict.getItem command "action"
  let createdAt ← epochSeconds rt (← Dict.getItem command "created_at")
  let expiresAt ← epochSeconds rt (← Dict.getItem command "expires_at")
  let pid ← unsigned rt target "pid"
  let startTimeTicks ← unsigned rt target "start_time_ticks"
  return [("schema_version", .str expected), ("command_id", commandId),
    ("correlation_id", correlationId), ("agent_id", agentId), ("host_id", hostId),
    ("action", action), ("created_at", .str (Text.ofInt createdAt)),
    ("expires_at", .str (Text.ofInt expiresAt)), ("pid", .str pid),
    ("start_time_ticks", .str startTimeTicks), ("boot_id", .str bootId), ("path", .str path)]

/-- The bytes of one field, which must be a string. -/
def fieldBytes : String × PyVal → Except PyError (List UInt8)
  | (name, .str value) => field name value
  | (name, _) => unsignable ((name : Text) ++ (" is not a string" : Text))

/-- The signing bytes of a closed envelope. -/
def envelopeBytes (rt : Runtime) (command : Dict) : Except PyError (List UInt8) := do
  let hostId ← Dict.getItem command "host_id"
  raiseIf (!isHostId hostId) (.unsignableCommand "host identity is invalid")
  let _ ← orUnsignable "command target does not meet the closed contract"
    (Command.modelValidate rt (commandEntries command))
  let target ← targetOf command
  match Dict.getD target "boot_id" (.str []), Dict.getD target "path" (.str []) with
  | .str bootId, .str path => do
      let fields ← signedFields rt command target bootId path
      return domain ++ (← fields.mapM fieldBytes).flatten
  | _, _ => unsignable "target boot_id and path must be strings"

/-- `signing_input`. -/
def signingInput (rt : Runtime) : PyVal → Except PyError (List UInt8)
  | .dict command =>
      if isClosed command then envelopeBytes rt command
      else unsignable "signed command envelope is not closed"
  | _ => unsignable "signed command envelope is not closed"

end ResponseEngine.Signing
