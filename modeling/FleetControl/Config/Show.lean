import FleetControl.Config.Load
import FleetControl.Toml.Write

/-!
# Showing a configuration

A configuration is shown as a file that would set it.  A secret is shown as being
set, and no more.
-/

namespace FleetControl
namespace Config

def veil (secret : String) : String :=
  if secret.isEmpty then secret else "<redacted>"

def veiled (c : Config) : Config :=
  { c with
    bootstrapToken := veil c.bootstrapToken
    adminToken := veil c.adminToken
    masterKey := veil c.masterKey }

def toFile (c : Config) : String :=
  Toml.write
    [("bind", Toml.quote c.bind), ("data_dir", Toml.quote c.dataDir),
     ("persist", Toml.boolChars c.persist),
     ("bootstrap_token", Toml.quote c.bootstrapToken),
     ("admin_token", Toml.quote c.adminToken), ("master_key", Toml.quote c.masterKey),
     ("windows_enabled", Toml.boolChars c.windowsEnabled),
     ("windows_allowed_job_types", Toml.listChars (c.windowsJobTypes.map Toml.quote)),
     ("lease_ttl_secs", Signature.integerText c.leaseSeconds),
     ("signature_window_secs", Signature.integerText c.signatureWindowSeconds),
     ("poll_limit", Text.Numeral.ofNat c.pollLimit),
     ("update_job_limit", Text.Numeral.ofNat c.updateJobLimit),
     ("max_log_lines", Text.Numeral.ofNat c.maxLogLines),
     ("stale_sweep_secs", Text.Numeral.ofNat c.sweepSeconds),
     ("disk_warn_free_percent", Toml.floatChars c.diskWarnFreePercent),
     ("disk_critical_free_percent", Toml.floatChars c.diskCriticalFreePercent)]

end Config
end FleetControl
