import ActorManifest.Spec.Service

/-!
# Projections

What a workload is given of its variables and services: one record for each variable,
one for each declared port, and one for each exposed port.
-/

namespace ActorManifest

/-- A variable as a container receives it. -/
structure EnvVar where
  name : Text
  value : Text
deriving DecidableEq

/-- The JSON form of a variable. -/
def EnvVar.toJson (v : EnvVar) : Json :=
  .object (Json.field "name" (.text v.name) ++ Json.field "value" (.text v.value))

/-- A port as a workload or a network service declares it. -/
structure PortBinding where
  number : Int
  protocol : Option Text
deriving DecidableEq

namespace PortBinding

/-- The JSON form of a binding, where the number stands under a given name. -/
def toJson (name : String) (b : PortBinding) : Json :=
  .object (Json.field name (.int b.number) ++ Json.field? "protocol" .text b.protocol)

/-- The JSON form of a port on the container. -/
def toContainerJson : PortBinding → Json :=
  toJson "containerPort"

/-- The JSON form of a port on the network. -/
def toServiceJson : PortBinding → Json :=
  toJson "port"

end PortBinding

/-- The binding of a port. -/
def Port.binding (p : Port) : PortBinding :=
  ⟨p.number, p.protocol⟩

/-- One record for each variable. -/
def envVars (declared : Option (Entries Text Text)) : Option (List EnvVar) :=
  declared.map fun entries => entries.map fun (name, value) => ⟨name, value⟩

/-- The ports of all services, in order. -/
def containerPorts (services : Option (List Service)) : Option (List PortBinding) :=
  services.map fun list => list.flatMap fun s => s.ports.map Port.binding

/-- The exposed ports of all services, in order; none if there is none. -/
def servicePorts (services : Option (List Service)) : Option (List PortBinding) :=
  services.bind fun list =>
    match list.flatMap fun s => (s.ports.filter Port.exposed).map Port.binding with
    | [] => none
    | ports => some ports

end ActorManifest
