import ActorManifest.Proofs.Json.Layout
import ActorManifest.Proofs.Spec.RoundTrip

/-!
# Specs are written tidily

What a spec is written to is tidy, and so is what its parts are written to.  Each record names
its fields in one order and leaves some out; port numbers are short; and variables have
different names.
-/

namespace ActorManifest

open Json

variable {depth : Nat}

theorem isTidy_variablesToJson {entries : Entries Text Text} (hdistinct : entries.names.Nodup) :
    IsTidy (depth + 1) (variablesToJson entries) := by
  refine .object ?_ (List.forall_mem_map.mpr fun _ _ => .text _)
  rw [List.map_map]
  exact hdistinct

theorem Partner.isTidy_toJson (p : Partner) : IsTidy (depth + 1) p.toJson := by
  have hname : IsRecord depth ["name"] (field "name" (.text p.name)) := isRecord_text "name" _
  have hfields := hname
    |>.append (isRecord_text "repository" p.repository)
    |>.append (isRecord_text? "path" p.path)
    |>.append (isRecord_text? "reference" p.reference)
  exact hfields.isTidy (by decide)

/-- A number of 32 bits has few digits. -/
theorem isWritable_of_isPortNumber {n : Int} (hn : IsPortNumber n) : isWritable n = true := by
  have hbound : n.natAbs < 10 ^ 10 := by
    have hlow := hn.1
    have hhigh := hn.2
    omega
  exact isWritable_of_lt_pow (by decide) hbound

theorem Port.isTidy_toJson (p : Port) : IsTidy (depth + 1) p.toJson := by
  have hnumber : IsTidy depth (.int p.number) := .int (isWritable_of_isPortNumber p.isNumber)
  have hfields := (isRecord_field "port" hnumber)
    |>.append (isRecord_text? "protocol" p.protocol)
    |>.append (isRecord_bool? "expose" p.expose)
  exact hfields.isTidy (by decide)

theorem Service.isTidy_toJson (s : Service) : IsTidy (depth + 3) s.toJson := by
  have hports : IsTidy (depth + 2) (.array (s.ports.map Port.toJson)) :=
    isTidy_array_map fun p _ => p.isTidy_toJson
  have hfields := (isRecord_text? "kind" s.kind).append (isRecord_field "ports" hports)
  exact hfields.isTidy (by decide)

theorem Build.isTidy_toJson {b : Build} (hdistinct : b.HasDistinctNames) :
    IsTidy (depth + 2) b.toJson := by
  have henv : IsRecord (depth + 1) ["env"] (field? "env" variablesToJson b.env) :=
    isRecord_field? _ fun env henv => isTidy_variablesToJson (hdistinct env henv)
  have hpacks : IsRecord (depth + 1) ["buildpacks"]
      (field? "buildpacks" (fun packs => .array (packs.map .text)) b.buildpacks) :=
    isRecord_field? _ fun packs _ => isTidy_array_map fun pack _ => .text pack
  have hfields := (isRecord_text? "context" b.context)
    |>.append henv
    |>.append (isRecord_text? "dockerfile" b.dockerfile)
    |>.append (isRecord_text? "builder" b.builder)
    |>.append hpacks
  exact hfields.isTidy (by decide)

theorem Spec.isTidy_toJson {s : Spec} (hdistinct : s.HasDistinctNames) :
    IsTidy (depth + 5) s.toJson := by
  have henvironments : IsRecord (depth + 4) ["environments"]
      (field? "environments" variablesToJson s.environments) :=
    isRecord_field? _ fun env henv => isTidy_variablesToJson (hdistinct.1 env henv)
  have hpartners : IsRecord (depth + 4) ["partners"]
      (field? "partners" (fun list => .array (list.map Partner.toJson)) s.partners) :=
    isRecord_field? _ fun list _ => isTidy_array_map fun p _ => p.isTidy_toJson
  have hservices : IsRecord (depth + 4) ["services"]
      (field? "services" (fun list => .array (list.map Service.toJson)) s.services) :=
    isRecord_field? _ fun list _ => isTidy_array_map fun service _ => service.isTidy_toJson
  have hbuild : IsRecord (depth + 4) ["build"] (field? "build" Build.toJson s.build) :=
    isRecord_field? _ fun b hb => Build.isTidy_toJson (hdistinct.2 b hb)
  have hfields := (isRecord_text "name" s.name)
    |>.append (isRecord_text "description" s.description)
    |>.append (isRecord_text "image" s.image)
    |>.append (isRecord_text? "command" s.command)
    |>.append (isRecord_text "repository" s.repository)
    |>.append (isRecord_text? "path" s.path)
    |>.append (isRecord_text? "reference" s.reference)
    |>.append (isRecord_text "commit" s.commit)
    |>.append henvironments
    |>.append hpartners
    |>.append hservices
    |>.append (isRecord_bool? "sync" s.sync)
    |>.append hbuild
  exact hfields.isTidy (by decide)

end ActorManifest
