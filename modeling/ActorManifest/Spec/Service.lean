import ActorManifest.Fields

/-!
# Services and ports

A service is a list of ports.  A port is a 32-bit number, and it is exposed only if it
says so.
-/

namespace ActorManifest

/-- Whether a number has a 32-bit form. -/
def IsPortNumber (n : Int) : Prop :=
  -0x80000000 ≤ n ∧ n ≤ 0x7FFFFFFF

instance (n : Int) : Decidable (IsPortNumber n) :=
  inferInstanceAs (Decidable (_ ∧ _))

/-- A port that a container listens on. -/
structure Port where
  number : Int
  protocol : Option Text
  expose : Option Bool
  isNumber : IsPortNumber number
deriving DecidableEq

variable [Machine]

namespace Port

/-- The port of a document that should be its number. -/
def ofParts (number : Document) (protocol : Option Text) (expose : Option Bool) :
    Except Refusal Port :=
  match number with
  | .scalar (.int n) =>
    if hnumber : IsPortNumber n then .ok ⟨n, protocol, expose, hnumber⟩
    else if isWritable n then .error (.portRange n)
    else .error .longNumber
  | d => .error (shownOr d (.notInteger .port "port"))

/-- Whether the port is reached from outside. -/
def exposed (p : Port) : Bool :=
  p.expose == some true

/-- The JSON form of a port. -/
def toJson (p : Port) : Json :=
  .object
    (Json.field "port" (.int p.number) ++ Json.field? "protocol" .text p.protocol ++
      Json.field? "expose" .bool p.expose)

/-- The port that a document describes. -/
def ofDocument (d : Document) : Except Refusal Port := do
  let entries ← entriesOf .port d
  match lookup? "port" entries with
  | none => throw (.missing .port "port")
  | some number =>
    let expose ← Field.bool? .port "expose" entries
    let protocol ← Field.text? .port "protocol" entries
    ofParts number protocol expose

end Port

/-- A service: its ports in order, and what kind of service it is. -/
structure Service where
  ports : List Port
  kind : Option Text
deriving DecidableEq

namespace Service

/-- The JSON form of a service. -/
def toJson (s : Service) : Json :=
  .object
    (Json.field? "kind" .text s.kind ++
      Json.field "ports" (.array (s.ports.map Port.toJson)))

/-- The service that a document describes. -/
def ofDocument (d : Document) : Except Refusal Service := do
  let entries ← entriesOf .service d
  match (lookup? "ports" entries).bind Document.items? with
  | some items =>
    let ports ← items.mapM Port.ofDocument
    let kind ← Field.text? .service "kind" entries
    return ⟨ports, kind⟩
  | none => throw (.listRequired .service "ports")

end Service
end ActorManifest
