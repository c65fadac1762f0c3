import ActorManifest.Manifest.File
import ActorManifest.Proofs.Actor.Schema
import ActorManifest.Proofs.Yaml.Loading

/-!
# Failures to load a manifest

A manifest that is not loaded is found fault with, unless something odd is met on the way: a path
that the system does not look at, a text with something that its format cannot hold, or a document
that is nested too deeply to be shown.
-/

namespace ActorManifest

namespace Failure

end Failure

namespace Manifest

variable {format : Format} {t : Text}

end Manifest
end ActorManifest
