import ActorManifest.Text.Basic

/-!
# Source locators

A locator says where code is fetched from: a repository, a reference within it after
`#`, and a path after `:`.  A path is written only together with a reference.
-/

namespace ActorManifest

/-- Where code is fetched from. -/
structure Locator where
  repository : Text
  reference : Option Text
  path : Option Text
deriving DecidableEq

namespace Locator

/-- The path of the configuration file where none is named. -/
def defaultPath : Text := "./.amp.toml"

/-- The locator as text. -/
def text (l : Locator) : Text :=
  match l.reference with
  | none => l.repository
  | some reference =>
    match l.path with
    | none => Text.concat [l.repository, "#", reference]
    | some path => Text.concat [l.repository, "#", reference, ":", path]

/-- The locator that a text names: the first `#` ends the repository, and the first `:` after
it ends the reference. -/
def ofText (t : Text) : Locator :=
  match Text.cutAt? (.char '#') t with
  | none => ⟨t, none, none⟩
  | some (repository, fragment) =>
    match Text.cutAt? (.char ':') fragment with
    | none => ⟨repository, some fragment, none⟩
    | some (reference, path) => ⟨repository, some reference, some path⟩

end Locator
end ActorManifest
