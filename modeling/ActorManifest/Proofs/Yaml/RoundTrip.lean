import ActorManifest.Proofs.Yaml.Blocks
import ActorManifest.Proofs.Yaml.Loading
import ActorManifest.Proofs.Yaml.Nodes
import ActorManifest.Proofs.Yaml.Parts

/-!
# Mappings in YAML are read back

What is written of a tidy mapping with short keys is cut into its tokens, the tokens are put
together to its node, and the node is loaded as its document.
-/

namespace ActorManifest
namespace Yaml

variable {depth : Nat} {fields : List (Text × Json)}

/-- A tidy mapping with short keys is read back from its lines. -/
theorem read_write [Machine] (htidy : Json.IsTidy depth (.object fields))
    (hkeys : (Json.object fields).HasShortKeys) (hdepth : depth ≤ leastLevels) :
    read (write fields) = .ok (.ofJson (.object fields)) := by
  have hallowed : (write fields).all isAllowed = true :=
    List.all_eq_true.mpr fun p hp => isAllowed_of_isSimple (isSimple_write htidy p hp)
  have hwidth : 2 * depth < Writer.width := by
    rw [leastLevels] at hdepth
    rw [Writer.width]
    omega
  have hlevels := Nat.le_trans hdepth Machine.le_nodeLevels
  have htokens : tokensOf (write fields) = (valueTokens false (.object fields), none) := by
    cases fields with
    | nil => decide +kernel
    | cons field fields => exact tokensOf_write htidy hkeys hwidth
  exact read_of_tokens _ _ hallowed htokens (Assembly.ofTokens_valueTokens htidy hlevels)
    (document_valueNode htidy)

end Yaml
end ActorManifest
