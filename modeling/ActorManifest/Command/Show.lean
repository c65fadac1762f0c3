import ActorManifest.Breakdown
import ActorManifest.Actor
import ActorManifest.Config.Basic

/-!
# What is shown of an actor

The lines that the commands on manifests print, and the JSON form of what a controller
derives from an actor.  Where the actor names no namespace or no path, the configuration
does; its settings need not be text.
-/

namespace ActorManifest
namespace Command

/-- The namespace that is shown for an actor. -/
def shownSpace (config : Config) (a : Actor) : Document :=
  (a.space.map Document.text).getD config.space

/-- The path that is shown for an actor. -/
def shownPath (config : Config) (a : Actor) : Document :=
  (a.spec.path.map Document.text).getD config.defaultPath

/-- How the image of an actor is built. -/
def buildMode (a : Actor) : Text :=
  if a.spec.hasDockerfile then "dockerfile" else "buildpacks"

/-- A partner as it is shown. -/
def partnerJson (p : Partner) : Json :=
  .object (Json.field "name" (.text p.name) ++ Json.field "url" (.text p.locator.text))

/-- A list or null. -/
def listOrNull {α : Type} (encode : α → Json) (items : Option (List α)) : Json :=
  match items with
  | none => .null
  | some items => .array (items.map encode)

/-- The fields of what is derived from an actor, with its namespace and its path as they are
shown. -/
def derivedFields (a : Actor) (space path : Json) : List (Text × Json) :=
  Json.field "name" (.text a.name) ++ Json.field "namespace" space ++
    Json.field "url" (.text a.spec.locator.text) ++ Json.field "path" path ++
    Json.field "commit" (.text a.spec.commit) ++
    Json.field "build_name" (.text a.spec.buildName) ++
    Json.field "docker_tag" (.text a.spec.imageTag) ++
    Json.field "build_mode" (.text (buildMode a)) ++
    Json.field "env" (listOrNull EnvVar.toJson a.spec.envVars) ++
    Json.field "container_ports"
      (listOrNull PortBinding.toContainerJson a.spec.containerPorts) ++
    Json.field "service_ports" (listOrNull PortBinding.toServiceJson a.spec.servicePorts) ++
    Json.field "partners" (.array ((a.spec.partners.getD []).map partnerJson))

variable [Machine]

/-- The JSON form of what is derived from an actor. -/
def derivedJson (config : Config) (a : Actor) : Except Breakdown Json := do
  let space ← (shownSpace config a).toJson.mapError .ofJsonFault
  let path ← (shownPath config a).toJson.mapError .ofJsonFault
  return .object (derivedFields a space path)

/-- A setting as it is shown. -/
def settingText (d : Document) : Except Breakdown Text :=
  d.toText.mapError .ofShowFault

/-- The line of a variable. -/
def variableLine (v : EnvVar) : Text :=
  Text.concat ["  ", v.name, "=", v.value]

/-- The line of a port; the protocol is assumed where the port names none. -/
def portLine (b : PortBinding) : Text :=
  let protocol := b.protocol.getD []
  Text.concat ["  ", Text.ofInt b.number, "/", if protocol = [] then "TCP" else protocol]

/-- The line of a partner. -/
def partnerLine (p : Partner) : Text :=
  Text.concat ["  ", p.name, ": ", p.locator.text]

/-- The lines about partners, if there are any. -/
def partnerLines (partners : List Partner) : List Text :=
  match partners with
  | [] => []
  | partners => Text.ofString "\nPartners:" :: partners.map partnerLine

/-- The lines about what an actor is built from and what its containers are given. -/
def derivedLines (a : Actor) : List Text :=
  [[Text.concat ["  commit:      ", a.spec.commit],
    Text.concat ["  build:       ", buildMode a, " (", a.spec.buildName, ")"],
    Text.concat ["  image:       ", a.spec.imageTag],
    "\nEnvironment:"], (a.spec.envVars.getD []).map variableLine,
   ["\nContainer ports:"], (a.spec.containerPorts.getD []).map portLine,
   ["\nService ports:"], (a.spec.servicePorts.getD []).map portLine,
   partnerLines (a.spec.partners.getD [])].flatten

/-- The line of a setting. -/
def settingLine (label : Text) (d : Document) : Except Breakdown Text :=
  (settingText d).map fun shown => label ++ shown

/-- The lines that show an actor. -/
def showLines (config : Config) (a : Actor) : List (Except Breakdown Text) :=
  [.ok (Text.concat ["Actor: ", a.name]), settingLine "  namespace:   " (shownSpace config a),
   .ok (Text.concat ["  url:         ", a.spec.locator.text]),
   settingLine "  path:        " (shownPath config a)] ++ (derivedLines a).map .ok

/-- The line of a condition. -/
def conditionLine (c : Condition) : Text :=
  let line := Text.concat
    ["  ", (Text.ofString c.phase.name).padEnd 10, " ", (statusText c.asserted).padEnd 6, " ",
     c.reason]
  if c.message = [] then line else Text.concat [line, " - ", c.message]

/-- The lines about the conditions of an actor. -/
def conditionLines (conditions : List Condition) : List Text :=
  match conditions with
  | [] => ["  (no conditions)"]
  | conditions => Text.ofString "\nConditions:" :: conditions.map conditionLine

/-- The lines about the status of an actor. -/
def statusLines (a : Actor) : List Text :=
  let phase := (a.status.phase?.map Phase.name).getD "Unknown"
  [Text.concat ["Actor: ", a.name], Text.concat ["  phase: ", phase]] ++
    conditionLines a.status.conditions

/-- The lines that confirm a manifest. -/
def validLines (a : Actor) : List Text :=
  [Text.concat ["✓ ", a.name, " is valid"], Text.concat ["  sha256: ", a.spec.contentHash]]

end Command
end ActorManifest
