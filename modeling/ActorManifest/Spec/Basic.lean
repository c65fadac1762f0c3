import ActorManifest.Digest.Sha256
import ActorManifest.Json.Writer
import ActorManifest.Source.Partner
import ActorManifest.Spec.Build
import ActorManifest.Spec.Projection
import ActorManifest.Text.Utf8

/-!
# Specs

A spec says what to build and to run: the source of the code, how an image is built
from it, and what the running container offers.  Its canonical form does not depend on
the order of variables, and its content is addressed by the digest of that form.
-/

namespace ActorManifest

/-- The declarative part of an actor. -/
structure Spec where
  name : Text
  repository : Text
  commit : Text
  description : Text
  image : Text
  command : Option Text
  path : Option Text
  reference : Option Text
  environments : Option (Entries Text Text)
  partners : Option (List Partner)
  services : Option (List Service)
  sync : Option Bool
  build : Option Build
  identified : name ≠ [] ∧ repository ≠ [] ∧ commit ≠ []
deriving DecidableEq

namespace Spec

/-- The spec that has a name, a repository and a commit and says nothing else. -/
def create (name repository commit : Text) : Except Refusal Spec :=
  if hname : name = [] then .error (.missing .spec "name")
  else if hrepository : repository = [] then .error (.emptyField "Actor" name "repository")
  else if hcommit : commit = [] then .error (.emptyField "Actor" name "commit")
  else
    .ok {
      name, repository, commit, description := [], image := [], command := none, path := none,
      reference := none, environments := none, partners := none, services := none,
      sync := none, build := none, identified := ⟨hname, hrepository, hcommit⟩ }

/-- The source of a spec. -/
def locator (s : Spec) : Locator :=
  ⟨s.repository, s.reference, s.path⟩

/-- The path of the configuration file of a spec. -/
def manifestPath (s : Spec) : Text :=
  s.path.getD Locator.defaultPath

/-- Whether an image is built from a build file. -/
def hasDockerfile (s : Spec) : Bool :=
  s.build.any fun b => b.dockerfile.isSome

/-- The variables of the container. -/
def envVars (s : Spec) : Option (List EnvVar) :=
  ActorManifest.envVars s.environments

/-- The declared ports. -/
def containerPorts (s : Spec) : Option (List PortBinding) :=
  ActorManifest.containerPorts s.services

/-- The exposed ports. -/
def servicePorts (s : Spec) : Option (List PortBinding) :=
  ActorManifest.servicePorts s.services

/-- The name of the image build of the commit. -/
def buildName (s : Spec) : Text :=
  Text.concat [s.name, "-", s.commit]

/-- The tag of the image of the commit. -/
def imageTag (s : Spec) : Text :=
  Text.concat [s.image, ":", s.commit]

/-- Whether two optional builds are equal, variables in any order. -/
def sameBuild? : Option Build → Option Build → Bool
  | none, none => true
  | some a, some b => a.same b
  | _, _ => false

/-- Whether two specs are equal, variables in any order. -/
def same (a b : Spec) : Bool :=
  sameVariables? a.environments b.environments && sameBuild? a.build b.build &&
    { a with environments := none, build := none } ==
      { b with environments := none, build := none }

/-- The JSON form of a spec. -/
def toJson (s : Spec) : Json :=
  .object
    (Json.field "name" (.text s.name) ++ Json.field "description" (.text s.description) ++
      Json.field "image" (.text s.image) ++ Json.field? "command" .text s.command ++
      Json.field "repository" (.text s.repository) ++
      Json.field? "path" .text s.path ++ Json.field? "reference" .text s.reference ++
      Json.field "commit" (.text s.commit) ++
      Json.field? "environments" variablesToJson s.environments ++
      Json.field? "partners" (fun list => .array (list.map Partner.toJson)) s.partners ++
      Json.field? "services" (fun list => .array (list.map Service.toJson)) s.services ++
      Json.field? "sync" .bool s.sync ++ Json.field? "build" Build.toJson s.build)

variable [Machine]

/-- An optional build. -/
def build? (entries : DocumentEntries) : Except Refusal (Option Build) :=
  match lookup? "build" entries with
  | none | some (.scalar .null) => .ok none
  | some d => (Build.ofDocument d).map some

/-- The spec that a document describes. -/
def ofDocument (d : Document) : Except Refusal Spec := do
  let entries ← entriesOf .spec d
  let partners ← Field.list? .spec "partners" Partner.ofDocument entries
  let services ← Field.list? .spec "services" Service.ofDocument entries
  let sync ← Field.bool? .spec "sync" entries
  let name ← Field.filled .spec "name" entries
  let repository ← Field.filled .spec "repository" entries
  let commit ← Field.filled .spec "commit" entries
  let description ← Field.textOrEmpty .spec "description" entries
  let image ← Field.textOrEmpty .spec "image" entries
  let command ← Field.text? .spec "command" entries
  let path ← Field.text? .spec "path" entries
  let reference ← Field.text? .spec "reference" entries
  let environments ← Field.variables? .spec "environments" entries
  let build ← build? entries
  return {
    name := name.text, repository := repository.text, commit := commit.text, description,
    image, command, path, reference, environments, partners, services, sync, build,
    identified := ⟨name.filled, repository.filled, commit.filled⟩ }

/-- The canonical form of a spec. -/
def canonical (s : Spec) : Text :=
  Json.canonical s.toJson

/-- The digest of the canonical form. -/
def contentHash (s : Spec) : Text :=
  Sha256.digest ((Utf8.encode? s.canonical).getD [])

end Spec
end ActorManifest
