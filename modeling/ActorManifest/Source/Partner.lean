import ActorManifest.Fields
import ActorManifest.Source.Locator

/-!
# Partners

A partner is another actor that an actor depends on, with a source of its own.
-/

namespace ActorManifest

/-- A named dependency on another actor. -/
structure Partner where
  name : Text
  repository : Text
  path : Option Text
  reference : Option Text
  named : name ≠ []
  located : repository ≠ []
deriving DecidableEq

namespace Partner

/-- The partner of four parts; its name and repository must not be empty. -/
def ofParts (name repository : Text) (path reference : Option Text) : Except Refusal Partner :=
  if hname : name = [] then .error (.missing .partner "name")
  else if hrepository : repository = [] then
    .error (.emptyField "Partner" name "repository")
  else .ok ⟨name, repository, path, reference, hname, hrepository⟩

/-- The source of a partner. -/
def locator (p : Partner) : Locator :=
  ⟨p.repository, p.reference, p.path⟩

/-- The path of the configuration file of a partner. -/
def manifestPath (p : Partner) : Text :=
  p.path.getD Locator.defaultPath

/-- The JSON form of a partner. -/
def toJson (p : Partner) : Json :=
  .object
    (Json.field "name" (.text p.name) ++ Json.field "repository" (.text p.repository) ++
      Json.field? "path" .text p.path ++ Json.field? "reference" .text p.reference)

/-- The partner that a document describes. -/
def ofDocument (d : Document) : Except Refusal Partner := do
  let entries ← entriesOf .partner d
  let name ← Field.filled .partner "name" entries
  let repository ← Field.filled .partner "repository" entries
  let path ← Field.text? .partner "path" entries
  let reference ← Field.text? .partner "reference" entries
  return ⟨name.text, repository.text, path, reference, name.filled, repository.filled⟩

end Partner
end ActorManifest
