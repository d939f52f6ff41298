import LogIntake.Kafka.Error
import LogIntake.Settings
import LogIntake.Text.Blank
import LogIntake.Text.Lowercase

/-!
# Settings of the connection to Kafka

Which servers to connect to, how to authenticate, and which further properties the client library
gets. They are loaded from environment variables.

## Main definitions

- `Connection`: the settings.
- `Connection.load`: the settings of an environment, or the first fault in it.
- `Connection.propertyName?`: the property that a variable stands for.
-/

namespace LogIntake.Kafka

structure Credentials where
  mechanism : String
  username : String
  password : String
  deriving DecidableEq, Repr

/-- The certificate by which a client authenticates itself. -/
structure ClientCertificate where
  certificate : String
  key : String
  deriving DecidableEq, Repr

structure Tls where
  /-- Certificates of servers are not checked. -/
  insecure : Bool
  authorities : Option String
  client : Option ClientCertificate
  deriving DecidableEq, Repr

structure Connection where
  servers : List String
  credentials : Option Credentials
  tls : Option Tls
  properties : Table String String
  /-- How long a request may take, in milliseconds. -/
  timeout : UInt64
  deriving DecidableEq

inductive ConnectionError where
  | unset (name : String)
  | noServers
  | badTimeout (value : String) (cause : Decimal.ReadError)
  | unpairedCertificate
  deriving DecidableEq

namespace Connection

def serversVariable : String := "OFFSETGEN_KAFKA_BROKERS"

def timeoutVariable : String := "OFFSETGEN_KAFKA_TIMEOUT_MS"

def mechanismVariable : String := "OFFSETGEN_KAFKA_SASL_MECHANISM"

def usernameVariable : String := "OFFSETGEN_KAFKA_SASL_USERNAME"

def passwordVariable : String := "OFFSETGEN_KAFKA_SASL_PASSWORD"

def tlsVariable : String := "OFFSETGEN_KAFKA_TLS_ENABLED"

def insecureVariable : String := "OFFSETGEN_KAFKA_TLS_INSECURE_SKIP_VERIFY"

def authoritiesVariable : String := "OFFSETGEN_KAFKA_TLS_CA_CERT"

def certificateVariable : String := "OFFSETGEN_KAFKA_TLS_CLIENT_CERT"

def keyVariable : String := "OFFSETGEN_KAFKA_TLS_CLIENT_KEY"

/-- What the names of variables with properties start with. -/
def propertyMark : String := "OFFSETGEN_KAFKA_PROPERTY_"

/-- The timeout if none is set, in milliseconds. -/
def standardTimeout : UInt64 := 5000

/-- A server on this machine, without authentication or encryption. -/
def standard : Connection := ⟨["localhost:9092"], none, none, .empty, standardTimeout⟩

end Connection

namespace ConnectionError

def text : ConnectionError → String
  | .unset name => "Environment variable " ++ name ++ " is not set"
  | .noServers => Connection.serversVariable ++ " has no brokers"
  | .badTimeout value e =>
    Connection.timeoutVariable ++ " '" ++ value ++ "' is invalid: " ++ e.message
  | .unpairedCertificate =>
    Connection.certificateVariable ++ " and " ++ Connection.keyVariable ++
      " must be set together"

/-- Settings without a meaning are an error of configuration. -/
def error (e : ConnectionError) : Error := .config e.text

end ConnectionError

namespace Connection

def require (env : Environment) (name : String) : Except ConnectionError String :=
  match env.get? name with
  | some value => .ok value
  | none => .error (.unset name)

/-- The servers of a list with commas. Blanks around a server do not count, and neither do empty
places. -/
def readServers (s : String) : List String :=
  ((s.toList.splitOn ',').map Text.trim).filter (! ·.isEmpty) |>.map .ofList

/-- The servers of an environment, at least one. -/
def loadServers (env : Environment) : Except ConnectionError (List String) := do
  let servers := readServers (← require env serversVariable)
  if servers.isEmpty then .error .noServers else .ok servers

def loadTimeout (env : Environment) : Except ConnectionError UInt64 :=
  match env.get? timeoutVariable with
  | none => .ok standardTimeout
  | some value =>
    match Decimal.read .unsigned64 value.toList with
    | .error e => .error (.badTimeout value e)
    | .ok n => .ok (.ofNat n.toNat)

/-- The credentials of an environment. A mechanism needs a user and a password. -/
def loadCredentials (env : Environment) : Except ConnectionError (Option Credentials) :=
  match env.get? mechanismVariable with
  | none => .ok none
  | some mechanism => do
    let username ← require env usernameVariable
    let password ← require env passwordVariable
    return some ⟨mechanism, username, password⟩

/-- The certificate of the client in an environment: certificate and key, or neither. -/
def loadCertificate (env : Environment) : Except ConnectionError (Option ClientCertificate) :=
  match env.get? certificateVariable, env.get? keyVariable with
  | some certificate, some key => .ok (some ⟨certificate, key⟩)
  | none, none => .ok none
  | _, _ => .error .unpairedCertificate

/-- The settings of encryption, which are looked at only if it is turned on. -/
def loadTls (env : Environment) : Except ConnectionError (Option Tls) :=
  if env.flag tlsVariable then do
    let client ← loadCertificate env
    return some ⟨env.flag insecureVariable, env.get? authoritiesVariable, client⟩
  else
    .ok none

/-- What is left of a text behind another one that it starts with. -/
def behind? : List Char → List Char → Option (List Char)
  | [], cs => some cs
  | _ :: _, [] => none
  | m :: mark, c :: cs => if m = c then behind? mark cs else none

/-- The property that a variable stands for: the rest of its name in lower case, with periods in
place of underscores. -/
def propertyName? (name : String) : Option String :=
  (behind? propertyMark.toList name.toList).map fun rest =>
    .ofList ((Text.lowercase rest).map fun c => if c = '_' then '.' else c)

/-- The properties that some variables stand for. -/
def readProperties (assignments : List (String × String)) : Table String String :=
  .ofList (assignments.filterMap fun v => (propertyName? v.1).map fun name => (name, v.2))

/-- The settings of an environment. The conditions on it are looked at one after the other, and
the first one that fails is the error. -/
def load (env : Environment) : Except ConnectionError Connection := do
  let servers ← loadServers env
  let timeout ← loadTimeout env
  let credentials ← loadCredentials env
  let tls ← loadTls env
  return ⟨servers, credentials, tls, readProperties env.entries, timeout⟩

end Connection

end LogIntake.Kafka
