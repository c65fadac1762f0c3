import ActorManifest.Manifest
import ActorManifest.Proofs.Actor.Schema
import ActorManifest.Proofs.Readings
import ActorManifest.Proofs.Spec.Room

/-!
# Specs alone and in wrappers

A manifest holds a spec alone or wraps it in a full document.  A wrapper whose metadata and status
say nothing describes the same actor as the spec alone, and is refused for the same reason: what
is read of it besides the spec is what the actor of a spec has from the start.
-/

namespace ActorManifest

open Document

/-- Nothing in the entries tells a full document, so they are a spec alone. -/
def DocumentEntries.IsBare (entries : DocumentEntries) : Prop :=
  lookup? "spec" entries = none ∧ lookup? "kind" entries = none

/-- The document is null or a mapping without entries. -/
def Document.HoldsNoEntries (d : Document) : Prop :=
  d = .null ∨ d.entries? = some []

/-- The document is null or a mapping in which no conditions are listed. -/
def Document.HoldsNoConditions (d : Document) : Prop :=
  d = .null ∨ ∃ entries, d.entries? = some entries ∧
    ∀ listed, lookup? "conditions" entries = some listed → listed = .null ∨ listed.items? = some []

namespace Actor

variable {d : Document} {entries : DocumentEntries}

/-- The entries wrap a spec and say nothing else of the actor. -/
structure Wraps (d : Document) (entries : DocumentEntries) : Prop where
  spec : lookup? "spec" entries = some d
  kind : entries.HoldsOnly kind "kind"
  version : entries.HoldsOnly apiVersion "apiVersion"
  metadata : ∀ m, lookup? "metadata" entries = some m → m.HoldsNoEntries
  status : ∀ s, lookup? "status" entries = some s → s.HoldsNoConditions

theorem wraps_spec (d : Document) : Wraps d [(.text "spec", d)] :=
  ⟨rfl, nofun, nofun, nofun, nofun⟩

theorem requireText_of_holdsOnly [Machine]
    {field : String} {expected : Text} {refusal : Text → Refusal}
    (honly : entries.HoldsOnly expected field) :
    requireText field expected refusal entries = .ok () := by
  unfold requireText
  cases hentry : lookup? field entries with
  | none => rfl
  | some d =>
      obtain rfl := honly d hentry
      simp

theorem metadataOf_of_wraps (hwraps : Wraps d entries) : metadataOf entries = .ok [] := by
  unfold metadataOf
  cases hentry : lookup? "metadata" entries with
  | none => rfl
  | some m =>
      rcases hwraps.metadata m hentry with rfl | hnone
      · rfl
      · simp [hnone]

end Actor

theorem Ledger.ofDocument_of_holdsNoConditions [Machine]
    {d : Document} (hnone : d.HoldsNoConditions) :
    Ledger.ofDocument d = .ok .empty := by
  have hdocuments : conditionDocuments d = .ok [] := by
    rcases hnone with rfl | ⟨entries, hentries, hlisted⟩
    · rfl
    · unfold conditionDocuments
      split
      · rfl
      · rename_i hunread
        rw [hunread] at hentries
        cases hentries
      · rename_i found hfound
        rw [hfound] at hentries
        cases hentries
        split
        · rfl
        · rename_i listed hlist
          rcases hlisted listed hlist with rfl | hitems
          · rfl
          · rw [hitems]
  rw [ofDocument, read, hdocuments]
  rfl

namespace Actor

variable {d : Document} {entries : DocumentEntries}

/-- What is read of a wrapper is the actor of its spec. -/
theorem readFull_of_wraps [Machine] (hwraps : Wraps d entries) :
    (readFull entries).2 = (Spec.ofDocument d).map ofSpec := by
  have hstatus : Ledger.ofDocument ((lookup? "status" entries).getD .null) = .ok .empty := by
    cases hentry : lookup? "status" entries with
    | none => rfl
    | some s => exact Ledger.ofDocument_of_holdsNoConditions (hwraps.status s hentry)
  simp only [readFull_eq_bind, hstatus, readFrame, requireText_of_holdsOnly hwraps.kind,
    requireText_of_holdsOnly hwraps.version, hwraps.spec, metadataOf_of_wraps hwraps]
  cases Spec.ofDocument d <;> rfl

theorem ofEntries_of_wraps [Machine] (hwraps : Wraps d entries) (space : Option Text) :
    ofEntries entries space = (Spec.ofDocument d).map fun s => (ofSpec s).within space := by
  have hspec : (lookup? "spec" entries).isSome = true := by rw [hwraps.spec, Option.isSome_some]
  rw [ofEntries, readEntries, hspec, Bool.true_or, if_pos rfl, readFull_of_wraps hwraps]
  cases Spec.ofDocument d <;> rfl

theorem ofEntries_of_isBare [Machine]
    (hentries : d.entries? = some entries) (hbare : entries.IsBare) (space : Option Text) :
    ofEntries entries space = (Spec.ofDocument d).map fun s => (ofSpec s).within space := by
  have hsame : Spec.ofDocument (.mapping entries) = Spec.ofDocument d := by
    rw [Spec.ofDocument, Spec.ofDocument, entriesOf, entriesOf, hentries]
    rfl
  rw [ofEntries, readEntries, hbare.1, hbare.2, hsame]
  cases Spec.ofDocument d <;> rfl

/-! ## The namespace of a full document -/

theorem under?_metadata
    {metadata : DocumentEntries} (hread : metadataOf entries = .ok metadata) (name : String) :
    (lookup? "metadata" entries).bind (under? name) = lookup? name metadata := by
  unfold metadataOf at hread
  split at hread
  · rename_i hentry
    cases hread
    rw [hentry]
    rfl
  · rename_i m hentry
    rw [hentry, Option.bind_some]
    split at hread
    · rename_i hmetadata
      cases hread
      exact under?_eq hmetadata name
    · rename_i hmetadata
      split at hread
      · cases hread
        rw [under?, hmetadata]
        rfl
      · cases hread

theorem holds_space_of_readFull [Machine] {a : Actor} (hread : (readFull entries).2 = .ok a) :
    Holds .text ((lookup? "metadata" entries).bind (under? "namespace")) a.space := by
  rw [readFull_eq_bind] at hread
  obtain ⟨frame, hframe, status, -, ha⟩ := by simpa only [bind_eq_ok_iff] using hread
  cases ha
  rw [readFrame] at hframe
  obtain ⟨-, -, -, -, hframe⟩ := by simpa only [bind_eq_ok_iff] using hframe
  split at hframe
  · cases hframe
  · obtain ⟨spec, -, metadata, hmetadata, generation, -, name, -, space, hspace, hframe⟩ := by
      simpa only [bind_eq_ok_iff] using hframe
    cases hframe
    rw [under?_metadata hmetadata]
    exact Field.holds_of_text? hspace

end Actor

namespace Manifest

variable {d : Document} {entries : DocumentEntries}

theorem actorOf_of_entries? [Machine] (hentries : d.entries? = some entries) (space : Option Text) :
    actorOf d space = actor entries space := by
  rw [actorOf, hentries]

theorem actorOf_mapping_of_wraps [Machine] {full : DocumentEntries} (hwraps : Actor.Wraps d full)
    (space : Option Text) : actorOf (.mapping full) space =
      ((Spec.ofDocument d).map fun s => (Actor.ofSpec s).within space).mapError .ofRefusal := by
  rw [actorOf_of_entries? rfl, actor, Actor.ofEntries_of_wraps hwraps]

theorem actorOf_of_isBare [Machine] (hentries : d.entries? = some entries)
    (hbare : entries.IsBare) (space : Option Text) : actorOf d space =
      ((Spec.ofDocument d).map fun s => (Actor.ofSpec s).within space).mapError .ofRefusal := by
  rw [actorOf_of_entries? hentries, actor, Actor.ofEntries_of_isBare hentries hbare]

/-- A wrapper is read like the spec alone where there is room for every part of the spec. -/
theorem actorOf_of_wraps {alone inside : Machine} {full : DocumentEntries}
    (hresidue : inside.residue = alone.residue) (halone : @IsShallow alone d)
    (hinside : @IsShallow inside d) (hentries : d.entries? = some entries)
    (hbare : entries.IsBare) (hwraps : Actor.Wraps d full) (space : Option Text) :
    @actorOf inside (.mapping full) space = @actorOf alone d space := by
  have hwithin : d.IsWithin (min inside.shownLevels alone.shownLevels) := fun part hpart =>
    Nat.le_min.mpr ⟨hinside part hpart, halone part hpart⟩
  have hspec : @Spec.ofDocument inside d = @Spec.ofDocument alone d :=
    Spec.ofDocument_congr hresidue (Nat.min_le_left _ _) (Nat.min_le_right _ _) hwithin
  have hbareRead := @actorOf_of_isBare d entries alone hentries hbare space
  rw [← hspec] at hbareRead
  exact (actorOf_mapping_of_wraps hwraps space).trans hbareRead.symm

/-- A spec alone is accepted, found fault with, or given up as it cannot be shown. -/
theorem outcome_of_isBare [Machine]
    (hentries : d.entries? = some entries) (hbare : entries.IsBare) (space : Option Text) :
    (∃ s, Spec.ofDocument d = .ok s ∧ actorOf d space = .ok ((Actor.ofSpec s).within space)) ∨
      (∃ refusal, refusal.IsFinding ∧ Spec.ofDocument d = .error refusal ∧
        actorOf d space = .error (.refused refusal)) ∨
      ∃ fault : ShowFault, ¬d.IsShowable ∧
        actorOf d space = .error (.ofRefusal (.ofShowFault fault)) := by
  rw [actorOf_of_isBare hentries hbare]
  have hsettled := Spec.settled_ofDocument d
  generalize Spec.ofDocument d = outcome at hsettled
  cases hsettled with
  | @accepted s _ => exact .inl ⟨s, rfl, rfl⟩
  | @refused refusal hfinding _ =>
      refine .inr (.inl ⟨refusal, hfinding, rfl, ?_⟩)
      cases refusal with
      | longNumber => exact absurd rfl hfinding.1
      | deepNesting => exact absurd rfl hfinding.2
      | _ => rfl
  | unshown fault hshow => exact .inr (.inr ⟨fault, hshow, rfl⟩)

/-- A spec alone and the same spec in a wrapper are one actor, or are refused alike.  The program
has gone deeper where it reads a spec inside a wrapper, and so finds other room there than for the
spec alone; both times there has to be room for every part of the spec.  The actor of a full
document is in the namespace that its metadata name, be it empty, and otherwise in the one that is
given. -/
theorem actorOf_wrapped [alone : Machine] (d : Document) (space : Option Text) :
    (∀ entries, d.entries? = some entries → entries.IsBare →
      (d.IsShallow → ∀ inside : Machine, inside.residue = alone.residue → @IsShallow inside d →
        @actorOf inside (.mapping [(.text "spec", d)]) space = @actorOf alone d space ∧
        ∀ metadata status : Document, metadata.HoldsNoEntries → status.HoldsNoConditions →
          @actorOf inside (.mapping [
            (.text "apiVersion", .text Actor.apiVersion), (.text "kind", .text Actor.kind),
            (.text "spec", d), (.text "metadata", metadata), (.text "status", status)]) space =
              @actorOf alone d space) ∧
      ((∃ s, Spec.ofDocument d = .ok s ∧ actorOf d space = .ok ((Actor.ofSpec s).within space)) ∨
        (∃ refusal, refusal.IsFinding ∧ Spec.ofDocument d = .error refusal ∧
          actorOf d space = .error (.refused refusal)) ∨
        ∃ fault : ShowFault, ¬d.IsShowable ∧
          actorOf d space = .error (.ofRefusal (.ofShowFault fault)))) ∧
    ∀ entries, d.entries? = some entries → ¬entries.IsBare → ∀ a, actorOf d space = .ok a →
      ∃ named, Holds .text ((d.under? "metadata").bind (under? "namespace")) named ∧
        a.space = (named <|> space) := by
  refine ⟨?_, ?_⟩
  · intro entries hentries hbare
    refine ⟨?_, outcome_of_isBare hentries hbare space⟩
    intro halone inside hresidue hinside
    have hsame := fun full (hwraps : Actor.Wraps d full) =>
      actorOf_of_wraps hresidue halone hinside hentries hbare hwraps space
    refine ⟨hsame _ (Actor.wraps_spec d), ?_⟩
    · intro metadata status hmetadata hstatus
      refine hsame _ ?_
      exact {
        spec := rfl
        kind := by rintro _ ⟨rfl⟩; rfl
        version := by rintro _ ⟨rfl⟩; rfl
        metadata := by rintro _ ⟨rfl⟩; exact hmetadata
        status := by rintro _ ⟨rfl⟩; exact hstatus }
  · intro entries hentries hfull a hread
    have hsome : ((lookup? "spec" entries).isSome || (lookup? "kind" entries).isSome) = true := by
      by_contra hnone
      exact hfull (by simpa [DocumentEntries.IsBare] using hnone)
    rw [actorOf_of_entries? hentries, actor, Actor.ofEntries, Actor.readEntries, hsome, if_pos rfl]
      at hread
    cases hread' : (Actor.readFull entries).2 with
    | error refusal =>
        rw [hread'] at hread
        cases hread
    | ok b =>
        rw [hread'] at hread
        cases hread
        rw [under?_eq hentries]
        exact ⟨b.space, Actor.holds_space_of_readFull hread', rfl⟩

/-- A spec alone and in a wrapper without conditions, and a full document in the namespace
without a name. -/
theorem actorOf_wrapped_in_namespace :
    let entries : DocumentEntries := [
      (.text "name", .text "web"), (.text "repository", .text "r"), (.text "commit", .text "c")]
    let d : Document := .mapping entries
    let wrapper : Document := .mapping [
      (.text "apiVersion", .text Actor.apiVersion), (.text "kind", .text Actor.kind),
      (.text "spec", d), (.text "metadata", .null),
      (.text "status", .mapping [(.text "conditions", .list [])])]
    let full : DocumentEntries := [
      (.text "spec", d), (.text "metadata", .mapping [(.text "namespace", .text [])])]
    actorOf (.mapping [(.text "spec", d)]) (some "n") = actorOf d (some "n") ∧
      actorOf wrapper (some "n") = actorOf d (some "n") ∧
      (∃ a, actorOf d (some "n") = .ok a ∧ a.space = some "n") ∧
      ∃ a named, actorOf (.mapping full) (some "n") = .ok a ∧ a.space = some [] ∧
        Holds .text (some (.text [])) named ∧ a.space = (named <|> some ("n" : Text)) := by
  intro entries d wrapper full
  obtain ⟨halone, -⟩ := actorOf_wrapped d (some "n")
  obtain ⟨-, hfull⟩ := actorOf_wrapped (.mapping full) (some "n")
  have hshallow : d.IsShallow := isShallow_of_isTree rfl (by decide)
  obtain ⟨hsame, -⟩ := halone entries rfl ⟨rfl, rfl⟩
  obtain ⟨hspec, hwrapper⟩ := hsame hshallow _ rfl hshallow
  have hstatus : (Document.mapping [(.text "conditions", .list [])]).HoldsNoConditions := by
    refine .inr ⟨_, rfl, ?_⟩
    rintro _ ⟨rfl⟩
    exact .inr rfl
  obtain ⟨named, hnamed, hspace⟩ := hfull full rfl nofun _ rfl
  exact ⟨hspec, hwrapper .null _ (.inl rfl) hstatus, ⟨_, rfl, rfl⟩,
    _, named, rfl, rfl, hnamed, hspace⟩

/-- A port with a long number is out of range, and is neither found fault with nor accepted in a
spec alone or in a wrapper. -/
theorem actorOf_of_long_port :
    let port : Document := .mapping [(.text "port", .scalar (.int (10 ^ 4300)))]
    let d : Document := .mapping [
      (.text "name", .text "web"), (.text "repository", .text "r"), (.text "commit", .text "c"),
      (.text "services", .list [.mapping [(.text "ports", .list [port])]])]
    ¬IsPortNumber (10 ^ 4300) ∧ actorOf d none = .error (.broken .longNumber) ∧
      actorOf (.mapping [(.text "spec", d)]) none = .error (.broken .longNumber) := by
  have hlong := isWritable_pow
  generalize (10 : Int) ^ 4300 = n at hlong
  intro port d
  have hrange : ¬IsPortNumber n := by
    intro hn
    rw [isWritable_of_isPortNumber hn] at hlong
    cases hlong
  have hport : Port.ofDocument port = .error .longNumber := by
    simp [Port.ofDocument, Port.ofParts, port, entriesOf, entries?, opened, Field.text?,
      Field.bool?, lookup?, hlong, hrange, bind, Except.bind, Text.ofString]
  have hspec : Spec.ofDocument d = .error .longNumber := by
    simp [Spec.ofDocument, Service.ofDocument, d, hport, entriesOf, entries?, items?, opened,
      Field.list?, lookup?, bind, Except.bind, Except.map, Text.ofString]
  have hbare : actorOf d none = .error (.broken .longNumber) := by
    rw [actorOf_of_isBare rfl ⟨rfl, rfl⟩, hspec]
    rfl
  refine ⟨hrange, hbare, ?_⟩
  have hshallow : d.IsShallow := isShallow_of_isTree rfl (Nat.le_of_ble_eq_true rfl)
  rw [actorOf_of_wraps rfl hshallow hshallow rfl ⟨rfl, rfl⟩ (Actor.wraps_spec d)]
  exact hbare

end Manifest
end ActorManifest
