import KeyVault.Files
import KeyVault.Json.Form
/-!
The configuration of a store: where its database is, whose rows it keeps and which
passphrase seals them. It comes from named variables or from a JSON file.
-/

namespace KeyVault

open Json (Form)

structure Config where
  databaseUrl : String
  account : String
  passphrase : String
  maxConnections : UInt32
  busyTimeoutSeconds : UInt64
  deriving DecidableEq, Repr

namespace Config

/-- Why there is no configuration. -/
inductive Fault where
  /-- A required variable is missing or empty. -/
  | notSet (name : String)
  /-- The variable of the pool size is no number. -/
  | notANumber (name raw : String)
  /-- The file cannot be read. -/
  | unreadable (path : String) (fault : Files.Fault)
  /-- The file does not hold a configuration. -/
  | unparsable (path : String) (fault : Json.Fault)
  deriving DecidableEq, Repr

def Fault.message : Fault → String
  | notSet name => s!"{name} not set"
  | notANumber name raw => s!"{name} is not a number: {raw}"
  | unreadable path fault => s!"read {path}: " ++ fault.message
  | unparsable path fault => s!"parse {path}: " ++ fault.message

def urlVariable : String :=
  "MX_STORE_DATABASE_URL"

def accountVariable : String :=
  "MX_STORE_ACCOUNT_ID"

def passphraseVariable : String :=
  "MX_STORE_PICKLE_KEY"

def poolVariable : String :=
  "MX_STORE_MAX_CONNECTIONS"

/-- How many connections a pool has unless told otherwise. -/
def defaultConnections : UInt32 :=
  5

/-- How many seconds a writer waits for a locked database unless told otherwise. -/
def defaultBusyTimeout : UInt64 :=
  5

/-- The pool size that a text gives: decimal digits of a number below 2^32, with a plus sign
in front of them or not.
-/
def parsePoolSize (raw : String) : Option UInt32 :=
  let digits := match raw.toList with
    | '+' :: rest => rest
    | all => all
  let value := Nat.ofDigitChars 10 digits 0
  if !digits.isEmpty && digits.all Char.isDigit && value < UInt32.size then some (UInt32.ofNat value) else none

/-- The value of a variable that must be there and not be empty. -/
def required (lookup : String → Option String) (name : String) : Except Fault String :=
  match lookup name with
  | none => .error (.notSet name)
  | some value => if value = "" then .error (.notSet name) else .ok value

/-- The configuration that named variables give. The address, the account and the passphrase
are asked for in this order; the pool size is optional and comes last.
-/
def ofLookup (lookup : String → Option String) : Except Fault Config := do
  let databaseUrl ← required lookup urlVariable
  let account ← required lookup accountVariable
  let passphrase ← required lookup passphraseVariable
  match lookup poolVariable with
  | none => pure ⟨databaseUrl, account, passphrase, defaultConnections, defaultBusyTimeout⟩
  | some raw =>
    match parsePoolSize raw with
    | some connections => pure ⟨databaseUrl, account, passphrase, connections, defaultBusyTimeout⟩
    | none => .error (.notANumber poolVariable raw)

/-- The fields of a configuration; the last two have defaults. -/
def record : Json.Record where
  name := "StoreConfig"
  fields :=
    [⟨"database_url", .text, none⟩,
     ⟨"account_id", .text, none⟩,
     ⟨"pickle_key", .text, none⟩,
     ⟨"max_connections", .whole 32, some defaultConnections.toBitVec⟩,
     ⟨"busy_timeout_secs", .whole 64, some defaultBusyTimeout.toBitVec⟩]

def ofValues : Json.Values record.fields → Config
  | (databaseUrl, account, passphrase, connections, timeout, _) =>
    ⟨databaseUrl, account, passphrase, .ofBitVec connections, .ofBitVec timeout⟩

def toValues (config : Config) : Json.Values record.fields :=
  (config.databaseUrl, config.account, config.passphrase, config.maxConnections.toBitVec,
    config.busyTimeoutSeconds.toBitVec, ())

def form : Form Config :=
  .ofRecord record ofValues toValues

/-- The configuration in the JSON file at a path. -/
def load (folder : Files.Folder) (path : String) : Except Fault Config :=
  match Files.textAt folder path with
  | .error fault => .error (.unreadable path fault)
  | .ok text =>
    match form.parse text with
    | .error fault => .error (.unparsable path fault)
    | .ok config => .ok config

/-- The text of a configuration in diagnostics, which keeps the passphrase back. -/
def describe (config : Config) : String :=
  "StoreConfig \x7b database_url: " ++ Text.quoted config.databaseUrl
    ++ ", account_id: " ++ Text.quoted config.account
    ++ ", pickle_key: \"<redacted>\""
    ++ s!", max_connections: {config.maxConnections}"
    ++ s!", busy_timeout_secs: {config.busyTimeoutSeconds} \x7d"

end Config

end KeyVault
