-- The entry point that starts the library for a host that does not start it
-- itself.

import ImageGateway.Foreign.Basic

namespace ImageGateway.Foreign

/-- Starts the library for a host. The host's name for itself goes before that of the environment.
The answer is 0 or -1. -/
def start (name : Option CText) : Program Int32 := do
  let config ← Config.fromEnvironment
  let config :=
    match name with
    | some name => { config with programName := name.lossy }
    | none => config
  match ← (Control.start config).run with
  | .ok () => return 0
  | .error failure =>
    warn "vo_init" failure.message
    return -1

end ImageGateway.Foreign
