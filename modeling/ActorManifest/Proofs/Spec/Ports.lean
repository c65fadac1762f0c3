import ActorManifest.Proofs.Readings
import ActorManifest.Spec.Basic
import Mathlib.Algebra.BigOperators.Group.List.Basic
import Mathlib.Algebra.Ring.Nat

/-!
# Ports as they are declared

Both projections of ports go back to the document of a spec.  The ports on the container are the
declared ports, service by service; the ports on the network are those of them that stand at the
places of exposed ports.  So the projections of services put together are the projections of the
services, put together.
-/

namespace ActorManifest

open Document

/-! ## Declared ports -/

namespace Port

/-- The document declares a port. -/
structure IsDeclaredBy (d : Document) (port : Port) : Prop where
  number : d.under? "port" = some (.scalar (.int port.number))
  protocol : Holds .text (d.under? "protocol") port.protocol
  expose : Holds (fun b => .scalar (.bool b)) (d.under? "expose") port.expose

theorem isDeclaredBy_of_ofDocument [Machine]
    {d : Document} {port : Port} (hread : ofDocument d = .ok port) :
    IsDeclaredBy d port := by
  obtain ⟨entries, hentries, hport⟩ := bind_eq_ok_iff.mp hread
  rw [entriesOf_eq_ok_iff] at hentries
  split at hport
  · cases hport
  · rename_i number hnumber
    simp only [bind_eq_ok_iff] at hport
    obtain ⟨expose, hexpose, protocol, hprotocol, hparts⟩ := hport
    unfold ofParts at hparts
    split at hparts
    · split at hparts
      · cases hparts
        exact {
          number := by rw [under?_eq hentries, hnumber]
          protocol := by
            rw [under?_eq hentries]
            exact Field.holds_of_text? hprotocol
          expose := by
            rw [under?_eq hentries]
            exact Field.holds_of_bool? hexpose }
      · split at hparts <;> cases hparts
    · cases hparts

end Port

/-- The documents of the ports that the document of a service lists. -/
def Service.portDocuments (d : Document) : List Document :=
  ((d.under? "ports").bind items?).getD []

/-- The documents of the services that the document of a spec lists. -/
def Spec.serviceDocuments (d : Document) : List Document :=
  ((d.under? "services").bind items?).getD []

theorem Service.mapM_portDocuments [Machine]
    {d : Document} {service : Service} (hread : ofDocument d = .ok service) :
    (portDocuments d).mapM Port.ofDocument = .ok service.ports := by
  obtain ⟨entries, hentries, hservice⟩ := bind_eq_ok_iff.mp hread
  rw [entriesOf_eq_ok_iff] at hentries
  split at hservice
  · rename_i items hitems
    simp only [bind_eq_ok_iff] at hservice
    obtain ⟨ports, hports, kind, -, heq⟩ := hservice
    cases heq
    simpa [portDocuments, under?_eq hentries, hitems] using hports
  · cases hservice

theorem Spec.mapM_serviceDocuments [Machine]
    {d : Document} {s : Spec} (hread : ofDocument d = .ok s) :
    (serviceDocuments d).mapM Service.ofDocument = .ok (s.services.getD []) ∧
      (s.services = none ↔ IsUnset (d.under? "services")) := by
  simp only [ofDocument, bind_eq_ok_iff] at hread
  obtain ⟨entries, hentries, partners, -, services, hservices, sync, -, name, -, repository, -,
    commit, -, description, -, image, -, command, -, path, -, reference, -, environments, -,
    build, -, hs⟩ := hread
  cases hs
  rw [entriesOf_eq_ok_iff] at hentries
  simp only [serviceDocuments, under?_eq hentries]
  rcases Field.holds_of_list? hservices with
    ⟨rfl, hunset⟩ | ⟨list, items, as, hentry, hitems, has, rfl⟩
  · refine ⟨?_, iff_of_true rfl hunset⟩
    rw [hunset.bind_items?]
    rfl
  · refine ⟨by rw [hentry, Option.bind_some, hitems]; exact has, ?_⟩
    refine iff_of_false (by simp) fun hunset => ?_
    have hnone := hunset.bind_items?
    rw [hentry, Option.bind_some, hitems] at hnone
    cases hnone

/-! ## Projections -/

namespace Spec

/-- The ports of a spec, service by service. -/
def ports (s : Spec) : List Port :=
  (s.services.getD []).flatMap Service.ports

/-- The ports of a spec are those that its document declares, in order. -/
theorem isDeclaredBy_ports [Machine] {d : Document} {s : Spec} (hread : ofDocument d = .ok s) :
    List.Forall₂ Port.IsDeclaredBy
      ((serviceDocuments d).flatMap Service.portDocuments) s.ports := by
  refine List.rel_flatMap (mapM_eq_ok_iff.mp (mapM_serviceDocuments hread).1) ?_
  intro document service hservice
  exact (mapM_eq_ok_iff.mp (Service.mapM_portDocuments hservice)).imp
    fun _ _ => Port.isDeclaredBy_of_ofDocument

theorem containerPorts_eq_none_iff {s : Spec} : s.containerPorts = none ↔ s.services = none :=
  Option.map_eq_none_iff

theorem getD_containerPorts (s : Spec) : s.containerPorts.getD [] = s.ports.map Port.binding := by
  cases hservices : s.services with
  | none => simp [containerPorts, ActorManifest.containerPorts, ports, hservices]
  | some services =>
      simp [containerPorts, ActorManifest.containerPorts, ports, hservices, List.map_flatMap]

theorem servicePorts_eq (s : Spec) :
    s.servicePorts =
      if (s.ports.filter Port.exposed).map Port.binding = [] then none
      else some ((s.ports.filter Port.exposed).map Port.binding) := by
  rw [servicePorts, ActorManifest.servicePorts]
  cases hservices : s.services with
  | none => simp [ports, hservices]
  | some services =>
      have hexposed : (services.flatMap fun service =>
          (service.ports.filter Port.exposed).map Port.binding) =
            (s.ports.filter Port.exposed).map Port.binding := by
        rw [ports, hservices, Option.getD_some, List.filter_flatMap, List.map_flatMap]
      rw [Option.bind_some, hexposed]
      cases (s.ports.filter Port.exposed).map Port.binding <;> rfl

theorem getD_servicePorts (s : Spec) :
    s.servicePorts.getD [] = (s.ports.filter Port.exposed).map Port.binding := by
  rw [servicePorts_eq]
  split
  · rename_i hnone
    exact hnone.symm
  · rfl

theorem servicePorts_eq_none_iff {s : Spec} :
    s.servicePorts = none ↔ ∀ port ∈ s.ports, port.expose ≠ some true := by
  have hexposed : ∀ port : Port, port.exposed = false ↔ port.expose ≠ some true := by
    simp [Port.exposed]
  have hempty : s.servicePorts = none ↔ s.ports.filter Port.exposed = [] := by
    rw [servicePorts_eq]
    split
    · rename_i hnone
      simpa using hnone
    · rename_i hsome
      simpa using hsome
  simp only [hempty, List.filter_eq_nil_iff, Bool.not_eq_true, hexposed]

end Spec

/-- The items at the places that are marked. -/
def marked {α : Type} (marks : List Bool) (items : List α) : List α :=
  ((marks.zip items).filter Prod.fst).map Prod.snd

theorem marked_map {α β : Type} (p : α → Bool) (f : α → β) (items : List α) :
    marked (items.map p) (items.map f) = (items.filter p).map f := by
  induction items with
  | nil => rfl
  | cons a rest ih =>
      rw [marked] at ih ⊢
      cases hp : p a <;> simp [hp, ih]

namespace Spec

/-- The ports on the container are the declared ports, and the ports on the network are those of
them at the places of exposed ports.  Both are 32-bit numbers, and the ports of services that are
put together are those of the services, put together. -/
theorem projections_of_ofDocument [Machine]
    {d : Document} {s : Spec} (hread : ofDocument d = .ok s) :
    (s.containerPorts = none ↔ IsUnset (d.under? "services")) ∧
      (∃ ports : List Port,
        List.Forall₂ Port.IsDeclaredBy
          ((serviceDocuments d).flatMap Service.portDocuments) ports ∧
        s.containerPorts.getD [] = ports.map Port.binding ∧
        (s.servicePorts = none ↔ ∀ port ∈ ports, port.expose ≠ some true) ∧
        s.servicePorts.getD [] = marked (ports.map Port.exposed) (s.containerPorts.getD [])) ∧
      (s.containerPorts.getD []).length =
        ((serviceDocuments d).map fun service => (Service.portDocuments service).length).sum ∧
      (∀ binding ∈ s.containerPorts.getD [] ++ s.servicePorts.getD [],
        IsPortNumber binding.number) ∧
      ∀ d₁ d₂ s₁ s₂, ofDocument d₁ = .ok s₁ → ofDocument d₂ = .ok s₂ →
        serviceDocuments d = serviceDocuments d₁ ++ serviceDocuments d₂ →
          s.containerPorts.getD [] = s₁.containerPorts.getD [] ++ s₂.containerPorts.getD [] ∧
          s.servicePorts.getD [] = s₁.servicePorts.getD [] ++ s₂.servicePorts.getD [] := by
  obtain ⟨hservices, hunset⟩ := mapM_serviceDocuments hread
  have hdeclared := isDeclaredBy_ports hread
  refine ⟨containerPorts_eq_none_iff.trans hunset, ⟨s.ports, hdeclared, getD_containerPorts s,
    servicePorts_eq_none_iff, ?_⟩, ?_, ?_, ?_⟩
  · rw [getD_servicePorts, getD_containerPorts, marked_map]
  · rw [getD_containerPorts, List.length_map, ← hdeclared.length_eq, List.length_flatMap]
  · intro binding hbinding
    rw [getD_containerPorts, getD_servicePorts, List.mem_append, List.mem_map, List.mem_map]
      at hbinding
    rcases hbinding with ⟨port, -, rfl⟩ | ⟨port, -, rfl⟩
    · exact port.isNumber
    · exact port.isNumber
  · intro d₁ d₂ s₁ s₂ hread₁ hread₂ hdocuments
    have hports : s.ports = s₁.ports ++ s₂.ports := by
      have happend : (serviceDocuments d).mapM Service.ofDocument =
          .ok (s₁.services.getD [] ++ s₂.services.getD []) := by
        rw [hdocuments, mapM_eq_ok_iff]
        exact List.rel_append (mapM_eq_ok_iff.mp (mapM_serviceDocuments hread₁).1)
          (mapM_eq_ok_iff.mp (mapM_serviceDocuments hread₂).1)
      rw [hservices] at happend
      rw [ports, Except.ok.inj happend, List.flatMap_append, ports, ports]
    simp only [getD_containerPorts, getD_servicePorts, hports, List.filter_append, List.map_append,
      and_self]

/-- A port that is declared twice, with other ports between, in two services. -/
theorem projections_of_ofDocument_repeated :
    let document (services : List Document) : Document := .mapping [
      (.text "name", .text "web"), (.text "repository", .text "r"), (.text "commit", .text "c"),
      (.text "services", .list services)]
    let exposed : Document := .mapping [
      (.text "port", .scalar (.int 80)), (.text "expose", .scalar (.bool true))]
    let hidden : Document := .mapping [
      (.text "port", .scalar (.int 81)), (.text "protocol", .text "UDP"), (.text "expose", .null)]
    let first : Document := .mapping [(.text "ports", .list [exposed, hidden])]
    let second : Document := .mapping [(.text "ports", .list [hidden, exposed])]
    ∃ s s₁ s₂, ofDocument (document [first, second]) = .ok s ∧
      ofDocument (document [first]) = .ok s₁ ∧ ofDocument (document [second]) = .ok s₂ ∧
      (s.containerPorts.getD []).length = 4 ∧
      s.containerPorts.getD [] = s₁.containerPorts.getD [] ++ s₂.containerPorts.getD [] ∧
      s.servicePorts.getD [] = s₁.servicePorts.getD [] ++ s₂.servicePorts.getD [] ∧
      s.servicePorts = some [⟨80, none⟩, ⟨80, none⟩] := by
  intro document exposed hidden first second
  obtain ⟨-, -, hlength, -, happend⟩ :=
    projections_of_ofDocument (d := document [first, second]) rfl
  obtain ⟨hcontainer, hservice⟩ :=
    happend (document [first]) (document [second]) _ _ rfl rfl rfl
  exact ⟨_, _, _, rfl, rfl, rfl, hlength, hcontainer, hservice, rfl⟩

end Spec

end ActorManifest
