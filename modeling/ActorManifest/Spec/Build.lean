import ActorManifest.Fields

/-!
# Builds

How an image is built: from a build file, or by a builder with buildpacks.
-/

namespace ActorManifest

/-- How an image is built. -/
structure Build where
  context : Option Text
  env : Option (Entries Text Text)
  dockerfile : Option Text
  builder : Option Text
  buildpacks : Option (List Text)
deriving DecidableEq

/-- The JSON form of variables. -/
def variablesToJson (entries : Entries Text Text) : Json :=
  .object (entries.map fun (name, value) => (name, .text value))

/-- Whether two optional sets of variables are the same up to order. -/
def sameVariables? : Option (Entries Text Text) → Option (Entries Text Text) → Bool
  | none, none => true
  | some a, some b => sameVariables a b
  | _, _ => false

namespace Build

/-- Whether a builder or at least one buildpack is named. -/
def hasBuildpacks (b : Build) : Bool :=
  b.builder.isSome || b.buildpacks.any fun packs => !packs.isEmpty

/-- Whether two builds are equal, variables in any order. -/
def same (a b : Build) : Bool :=
  sameVariables? a.env b.env && { a with env := none } == { b with env := none }

/-- The JSON form of a build. -/
def toJson (b : Build) : Json :=
  .object
    (Json.field? "context" .text b.context ++ Json.field? "env" variablesToJson b.env ++
      Json.field? "dockerfile" .text b.dockerfile ++ Json.field? "builder" .text b.builder ++
      Json.field? "buildpacks" (fun packs => .array (packs.map .text)) b.buildpacks)

/-- The text of a document that holds nothing else. -/
def packOf (d : Document) : Except Refusal Text :=
  match d with
  | .scalar (.text t) => .ok t
  | _ => .error (.notTexts .build "buildpacks")

/-- The optional list of buildpacks. -/
def packs? (entries : DocumentEntries) : Except Refusal (Option (List Text)) :=
  match lookup? "buildpacks" entries with
  | none | some (.scalar .null) => .ok none
  | some d =>
    match d.items? with
    | some items => (items.mapM packOf).map some
    | none => .error (.notTexts .build "buildpacks")

/-- The build that a document describes. -/
def ofDocument [Machine] (d : Document) : Except Refusal Build := do
  let entries ← entriesOf .build d
  let buildpacks ← packs? entries
  let context ← Field.text? .build "context" entries
  let env ← Field.variables? .build "env" entries
  let dockerfile ← Field.text? .build "dockerfile" entries
  let builder ← Field.text? .build "builder" entries
  return ⟨context, env, dockerfile, builder, buildpacks⟩

end Build
end ActorManifest
