import LogIntake.Event
import LogIntake.Kafka.Connection

/-!
# Settings of the client library

The client library takes its settings as properties by name. The properties of a connection are
applied first and the settings that have a meaning of their own are put on top, so that these
always win.

## Main definitions

- `secure`: the properties with those of authentication and encryption.
- `clientSettings`: all properties of a connection.
- `ClientOptions`: what a client is created from.
-/

namespace LogIntake.Kafka

/-- Properties of the client library by name. -/
abbrev ClientSettings : Type := Table String String

/-- The client library logs warnings and all that is worse. -/
def clientLogLevel : String := "Warning"

/-- The name of the protocol, given by what the connection uses. A connection without any
security has no setting for it. -/
def protocol? : Option Credentials → Option Tls → Option String
  | some _, some _ => some "SASL_SSL"
  | some _, none => some "SASL_PLAINTEXT"
  | none, some _ => some "SSL"
  | none, none => none

def Credentials.properties (c : Credentials) : List (String × String) :=
  [("sasl.mechanisms", c.mechanism), ("sasl.username", c.username),
    ("sasl.password", c.password)]

def ClientCertificate.properties (c : ClientCertificate) : List (String × String) :=
  [("ssl.certificate.location", c.certificate), ("ssl.key.location", c.key)]

/-- The properties that turn the check of certificates off. -/
def uncheckedProperties : List (String × String) :=
  [("enable.ssl.certificate.verification", "false"),
    ("ssl.endpoint.identification.algorithm", "none")]

def Tls.properties (t : Tls) : List (String × String) :=
  (if t.insecure then uncheckedProperties else []) ++
    (t.authorities.toList.map fun place => ("ssl.ca.location", place)) ++
    t.client.toList.flatMap ClientCertificate.properties

/-- The properties of authentication and encryption. -/
def securityProperties (credentials : Option Credentials) (tls : Option Tls) :
    List (String × String) :=
  ((protocol? credentials tls).toList.map fun p => ("security.protocol", p)) ++
    credentials.toList.flatMap Credentials.properties ++ tls.toList.flatMap Tls.properties

/-- Puts the properties of authentication and encryption on top of others. -/
def secure (settings : ClientSettings) (credentials : Option Credentials) (tls : Option Tls) :
    ClientSettings :=
  settings.extend (securityProperties credentials tls)

/-- The servers of a connection as the client library takes them. -/
def Connection.serverList (connection : Connection) : String :=
  String.intercalate "," connection.servers

/-- All properties of a connection. Nothing is ever committed by the client itself. -/
def clientSettings (connection : Connection) : ClientSettings :=
  let basic := connection.properties.extend
    [("bootstrap.servers", connection.serverList), ("enable.auto.commit", "false")]
  secure basic connection.credentials connection.tls

/-- What the client library creates a client from. -/
structure ClientOptions where
  settings : ClientSettings
  /-- How bad an event has to be for the client library to log it. -/
  logLevel : String

/-- What the client of a connection is created from. -/
def Connection.clientOptions (connection : Connection) : ClientOptions :=
  ⟨clientSettings connection, clientLogLevel⟩

namespace ClientEvent

def applying (properties : ClientSettings) : Event where
  origin := .client
  level := .info
  message := "Applying user-specified kafka config: " ++
    String.intercalate ", " (properties.entries.map fun e => e.1 ++ "=" ++ e.2)
  fields := []

def insecure : Event where
  origin := .security
  level := .warn
  message := "'insecureSkipVerify' is set to true, certificate validation will not be " ++
    "performed when connecting to Kafka server"
  fields := []

end ClientEvent

/-- What is logged while the properties of a connection are put together. -/
def settingsEvents (connection : Connection) : List Event :=
  (if connection.properties.isEmpty then [] else [ClientEvent.applying connection.properties]) ++
    (if connection.tls.any (·.insecure) then [ClientEvent.insecure] else [])

end LogIntake.Kafka
