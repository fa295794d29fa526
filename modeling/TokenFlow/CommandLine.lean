/-
# TokenFlow.CommandLine -- a token on standard output

The command makes a configuration of its arguments, gets one token and prints
it.  The log goes to the error output: notes and worse always, and everything
when asked for.  The status is 0 for a token, 1 for a failed login and 2 for
arguments that cannot be used.
-/
import TokenFlow.CommandLine.Arguments

namespace TokenFlow.CommandLine

set_option autoImplicit false

def program : String := "flightsql-oauth"

/-- What a parameter is for. -/
def Parameter.description : Parameter → String
  | .help => "show this help and exit"
  | .flow => "authorization_code or server_side"
  | .issuer => "issuer address, used to find the endpoints"
  | .authorizationUrl => "authorization endpoint"
  | .tokenUri => "token endpoint"
  | .clientId => "client identifier"
  | .clientSecret => "client secret, for issuers that require one"
  | .scope => "scopes, separated by blanks"
  | .serverUrl => "base address of the companion service"
  | .insecure => "do not check the certificate of the companion service"
  | .verbose => "log everything"

def help : String :=
  "usage: " ++ program ++ " [parameters]\n"
    ++ String.join (Parameter.all.map fun parameter =>
      "  " ++ String.intercalate ", " parameter.names ++ "  " ++ parameter.description ++ "\n")

/-! ## Log -/

/-- The name under which a part of the program writes. -/
def sourceName : Source → String
  | .commandLine => "flightsql_oauth"
  | .provider => "flightsql_oauth.client.auth"
  | .callback => "flightsql_oauth.client.callback"
  | .discovery => "flightsql_oauth.client.discovery"

def entryText (entry : LogEntry) : String :=
  entry.level.name ++ ":" ++ sourceName entry.source ++ ":" ++ entry.message ++ "\n"

/-- The entries that are shown, as they are written. -/
def logText (verbose : Bool) (log : List LogEntry) : String :=
  String.join ((log.filter fun entry => verbose || entry.level ≠ .debug).map entryText)

/-! ## Run -/

/-- What a run comes to. -/
structure Report where
  /-- The status, or a fault that nobody handles. -/
  exit : Except Fault Nat
  output : String
  errors : String

def note (level : Level) (message : String) : AgentAct Unit :=
  Agent.inWorld (World.write level .commandLine message)

/-- One token for settings. -/
def requestToken (settings : Settings) : AgentAct String := do
  let configuration ← Act.lift (Configuration.ofSettings settings)
  let account ← configuration.account none Configuration.Options.default
  note .info ("Requesting token using the " ++ configuration.flow.name ++ " flow")
  account.getToken

/-- One token, or a note of the failure in its place. -/
def attemptToken (settings : Settings) : AgentAct (Option String) := do
  match ← Act.attempt (requestToken settings) with
  | .ok token => pure (some token)
  | .error failure =>
      note .error ("Error: " ++ failure.message)
      pure none

/-- Runs the command in a world where nothing is logged yet. -/
def run (line : List String) (world : World) : Report × World :=
  match Arguments.read line with
  | .error .help => (⟨.ok 0, help, ""⟩, world)
  | .error (.misuse cause) =>
      (⟨.ok 2, "", program ++ ": error: " ++ cause.message ++ "\n"⟩, world)
  | .ok arguments =>
      let (result, agent) := attemptToken arguments.settings (Agent.start world)
      let errors := logText arguments.verbose agent.world.log
      match result with
      | .ok (some token) => (⟨.ok 0, token ++ "\n", errors⟩, agent.world)
      | .ok none => (⟨.ok 1, "", errors⟩, agent.world)
      | .error fault => (⟨.error fault, "", errors⟩, agent.world)

end TokenFlow.CommandLine
