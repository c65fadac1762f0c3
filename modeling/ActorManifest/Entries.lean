/-!
# Ordered entries

A mapping keeps its entries in the order in which their keys first came.  Writing to a
key that is present changes its value and neither its place nor its spelling.
-/

namespace ActorManifest

/-- The entries of a mapping, in order. -/
abbrev Entries (κ : Type) (α : Type) := List (κ × α)

namespace Entries

variable {κ α : Type}

/-- The entries after writing a value to a key, where `same` tells equal keys. -/
def put (same : κ → κ → Bool) (key : κ) (value : α) : Entries κ α → Entries κ α
  | [] => [(key, value)]
  | (k, v) :: rest =>
    if same k key then (k, value) :: rest else (k, v) :: put same key value rest

/-- The entries after writing a list of them one after another. -/
def ofList (same : κ → κ → Bool) (entries : List (κ × α)) : Entries κ α :=
  entries.foldl (fun done (key, value) => put same key value done) []

end Entries
end ActorManifest
