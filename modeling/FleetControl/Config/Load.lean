import FleetControl.Config.Basic
import FleetControl.Toml.Read
import FleetControl.Wire.Agents

/-!
# Loading a configuration

A configuration is laid over a given one.  In a file every setting is optional and
unknown settings are passed over; a setting of the wrong kind is refused.
-/

namespace FleetControl
namespace Config

open Json

/-!
# From a file
-/

/-- The setting under a key, if it is there, or `none` if it is of the wrong kind. -/
def setting {α : Type} (entries : List (String × Toml)) (key : String)
    (read? : Toml → Option α) (old : α) : Option α :=
  match Toml.get? entries key with
  | none => some old
  | some v => read? v

def text? : Toml → Option String
  | .text s => some s
  | _ => none

def bool? : Toml → Option Bool
  | .bool b => some b
  | _ => none

def integer? : Toml → Option Int
  | .integer n => some n
  | _ => none

def natural? : Toml → Option Nat
  | .integer n => if 0 ≤ n then some n.toNat else none
  | _ => none

def float? : Toml → Option Float
  | .float x => some x
  | .integer n => some (if n < 0 then -(Float.ofNat n.natAbs) else Float.ofNat n.natAbs)
  | _ => none

def texts? : Toml → Option (List String)
  | .array items => items.mapM text?
  | _ => none

def withFile (c : Config) (entries : List (String × Toml)) : Option Config := do
  let bind ← setting entries "bind" text? c.bind
  let dataDir ← setting entries "data_dir" text? c.dataDir
  let persist ← setting entries "persist" bool? c.persist
  let bootstrapToken ← setting entries "bootstrap_token" text? c.bootstrapToken
  let adminToken ← setting entries "admin_token" text? c.adminToken
  let masterKey ← setting entries "master_key" text? c.masterKey
  let windowsEnabled ← setting entries "windows_enabled" bool? c.windowsEnabled
  let windowsJobTypes ← setting entries "windows_allowed_job_types" texts? c.windowsJobTypes
  let leaseSeconds ← setting entries "lease_ttl_secs" integer? c.leaseSeconds
  let window ← setting entries "signature_window_secs" integer? c.signatureWindowSeconds
  let pollLimit ← setting entries "poll_limit" natural? c.pollLimit
  let updateJobLimit ← setting entries "update_job_limit" natural? c.updateJobLimit
  let maxLogLines ← setting entries "max_log_lines" natural? c.maxLogLines
  let sweepSeconds ← setting entries "stale_sweep_secs" natural? c.sweepSeconds
  let warn ← setting entries "disk_warn_free_percent" float? c.diskWarnFreePercent
  let critical ← setting entries "disk_critical_free_percent" float? c.diskCriticalFreePercent
  return { bind, dataDir, persist, bootstrapToken, adminToken, masterKey, windowsEnabled
           windowsJobTypes, leaseSeconds, signatureWindowSeconds := window, pollLimit
           updateJobLimit, maxLogLines, sweepSeconds, diskWarnFreePercent := warn
           diskCriticalFreePercent := critical }

/-- Where the text of a configuration comes from. -/
inductive File where
  | none
  | absent
  | text (s : String)

inductive LoadError where
  | unreadable
  | malformed
  | invalid (flaw : Flaw)

namespace LoadError

def message : LoadError → String
  | .unreadable => "the configuration file cannot be read"
  | .malformed => "the configuration file is not a configuration"
  | .invalid flaw => flaw.message

end LoadError

/-- Read the file, lay the environment over it, and check the outcome. -/
def load (dataHome : String) (file : File) (env : String → Option String) :
    Except LoadError Config := do
  let fromFile ←
    match file with
    | .none => pure (standard dataHome)
    | .absent => throw .unreadable
    | .text s =>
        match (Toml.read? s).bind (standard dataHome).withFile with
        | some c => pure c
        | none => throw .malformed
  let c := fromFile.withEnvironment env
  match c.check with
  | .ok () => return c
  | .error flaw => throw (.invalid flaw)

/-!
# Written form
-/

def toJson (c : Config) : Json :=
  .object
    [("bind", .text c.bind), ("data_dir", .text c.dataDir), ("persist", .bool c.persist),
     ("bootstrap_token", .text c.bootstrapToken), ("admin_token", .text c.adminToken),
     ("master_key", .text c.masterKey), ("windows_enabled", .bool c.windowsEnabled),
     ("windows_allowed_job_types", Wire.ofTexts c.windowsJobTypes),
     ("lease_ttl_secs", Wire.integer c.leaseSeconds),
     ("signature_window_secs", Wire.integer c.signatureWindowSeconds),
     ("poll_limit", Wire.natural c.pollLimit),
     ("update_job_limit", Wire.natural c.updateJobLimit),
     ("max_log_lines", Wire.natural c.maxLogLines),
     ("stale_sweep_secs", Wire.natural c.sweepSeconds),
     ("disk_warn_free_percent", Wire.ofFloat c.diskWarnFreePercent),
     ("disk_critical_free_percent", Wire.ofFloat c.diskCriticalFreePercent)]

def natural64 : Decoder Nat :=
  Decoder.natural UInt64.size

/-- A document laid over a configuration. -/
def decoder (c : Config) : Decoder Config :=
  Record.decode
    (Config.mk <$> .defaulted "bind" Decoder.text c.bind
      <*> .defaulted "data_dir" Decoder.text c.dataDir
      <*> .defaulted "persist" Decoder.bool c.persist
      <*> .defaulted "bootstrap_token" Decoder.text c.bootstrapToken
      <*> .defaulted "admin_token" Decoder.text c.adminToken
      <*> .defaulted "master_key" Decoder.text c.masterKey
      <*> .defaulted "windows_enabled" Decoder.bool c.windowsEnabled
      <*> .defaulted "windows_allowed_job_types" Wire.texts c.windowsJobTypes
      <*> .defaulted "lease_ttl_secs" Wire.int64 c.leaseSeconds
      <*> .defaulted "signature_window_secs" Wire.int64 c.signatureWindowSeconds
      <*> .defaulted "poll_limit" natural64 c.pollLimit
      <*> .defaulted "update_job_limit" natural64 c.updateJobLimit
      <*> .defaulted "max_log_lines" natural64 c.maxLogLines
      <*> .defaulted "stale_sweep_secs" natural64 c.sweepSeconds
      <*> .defaulted "disk_warn_free_percent" Decoder.float c.diskWarnFreePercent
      <*> .defaulted "disk_critical_free_percent" Decoder.float c.diskCriticalFreePercent)

end Config
end FleetControl
