import ActorManifest.Host.Environment
import ActorManifest.Host.FileTree

/-!
# Hosts

What a command finds when it starts: the files, the variables of its process, and the
users of the machine.
-/

namespace ActorManifest

/-- A machine with a process on it. -/
structure Host where
  files : FileTree
  environment : Variables
  users : Users

/-- The path with the home directory in place of a tilde. -/
def Host.expandHome (host : Host) (p : Path) : Except HomeFault Path :=
  p.expandHome host.users host.environment

end ActorManifest
