import SignIn.Command.Run
import SignIn.Identifier
import Std.Time

/-!
# The program

Collects what a run needs from the system, runs, and prints.
-/

namespace SignIn

/-- The number of an error of the system. Some calls give it negated. -/
def systemNumber : IO.Error → Nat
  | .alreadyExists _ number _ | .interrupted _ number _ | .noFileOrDirectory _ number _
  | .invalidArgument _ number _ | .permissionDenied _ number _ | .resourceExhausted _ number _
  | .inappropriateType _ number _ | .noSuchThing _ number _ | .otherError number _
  | .resourceBusy number _ | .resourceVanished number _ | .unsupportedOperation number _
  | .hardwareFault number _ | .unsatisfiedConstraints number _ | .illegalOperation number _
  | .protocolError number _ | .timeExpired number _ => number.toInt32.toInt.natAbs
  | .unexpectedEof | .userError _ => 0

/-- What stands at a path of the file system. The system knows a path if it can resolve it. -/
def placeAt (path : String) : BaseIO Place := do
  match ← (IO.FS.readBinFile path).toBaseIO with
  | .ok content => return .file content
  | .error refusal =>
    let known := (← (IO.FS.realPath path).toBaseIO).toBool
    return .ofRefusal known (systemNumber refusal)

/-- The variables of the environment. -/
def currentEnvironment : BaseIO Environment := do
  let configPath ← IO.getEnv "AUTH_CONFIG_PATH"
  let expiryMinutes ← IO.getEnv "ACCESS_TOKEN_EXPIRY_MINUTES"
  return ⟨configPath.map String.toUTF8, expiryMinutes.map String.toUTF8⟩

/-- The instant of the system's clock. -/
def currentInstant : IO Instant := do
  let nanos := (← Std.Time.Timestamp.now).toNanosecondsSinceUnixEpoch.val
  match Instant.ofNanos? nanos with
  | some now => return now
  | none => throw (IO.userError "the clock is out of bounds")

/-- A new identifier. -/
def newIdentifier : IO String := do
  return identifierOf (← IO.getRandomBytes identifierBytes.toUSize).toList

/-- New identifiers, a new secret and the present instant. -/
def newSupply : IO Supply := do
  let secret ← IO.getRandomBytes secretBytes.toUSize
  return ⟨← newIdentifier, ← newIdentifier, ← newIdentifier, secretOf secret.toList,
    ← newIdentifier, ← currentInstant⟩

/-- The files that a run with the given arguments reads. -/
def currentFiles (env : Environment) (arguments : List String) : BaseIO Files := do
  match Command.ofArguments arguments with
  | .error _ => return fun _ => .missing
  | .ok command =>
    let place ← placeAt (command.path env)
    return fun path => if path = command.path env then place else .missing

end SignIn

open SignIn in
/-- Runs the program. -/
def main (arguments : List String) : IO UInt32 := do
  let env ← currentEnvironment
  let files ← currentFiles env arguments
  let ending := Ending.ofArguments files env (← newSupply) arguments
  ending.output.forM IO.println
  ending.complaint.forM IO.eprintln
  return ending.exitCode
