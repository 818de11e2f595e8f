import ComuFrame.Lib.UnorderedMap

/-!
# ComuFrame — the YAML values that travel in messages

Nodes put YAML text into their messages and Central parses it. The parser, the emitter and the
conversions of a parsed node belong to yaml-cpp, which is not part of the repository: `YamlCpp`
is a parameter, and a result that needs something of it says so (`YamlCpp.ReadsBack`,
`YamlCpp.CoversStringMaps`). `YamlCpp.documented` has the conversions as yaml-cpp documents
them; only concrete runs use it.
-/

namespace ComuFrame

open Cpp

/-- A parsed `YAML::Node`. -/
inductive Yaml where
  | null
  | scalar (text : String)
  | sequence (items : List Yaml)
  | map (entries : List (Yaml × Yaml))

/-- The parts of yaml-cpp the program calls, `none` where one throws. -/
structure YamlCpp where
  /-- `YAML::Emitter <<`. -/
  emit : Yaml → String
  /-- `YAML::Load`. -/
  load : String → Option Yaml
  /-- `node.as<std::string>()`. -/
  asString : Yaml → Option String
  /-- The pairs `it->first`, `it->second` of a loop over the node. -/
  pairs : Yaml → Option (List (Yaml × Yaml))
  /-- `node.as<std::unordered_map<std::string, std::string>>()`. -/
  asStringMap : Yaml → Option (UnorderedMap String String)

/-- The emitted text of `value` parses back to `value`. -/
def YamlCpp.ReadsBack (yaml : YamlCpp) (value : Yaml) : Prop :=
  yaml.load (yaml.emit value) = some value

/-- Every map of strings is what some node converts to. -/
def YamlCpp.CoversStringMaps (yaml : YamlCpp) : Prop :=
  ∀ fields, ∃ node, yaml.asStringMap node = some fields

/-! ## The conversions as documented -/

namespace Yaml

/-- A scalar is its text. (What a null node gives differs between versions; here it throws.) -/
def asString : Yaml → Option String
  | .scalar text => some text
  | .null => none
  | .sequence _ => none
  | .map _ => none

/-- A scalar or a null node has no pairs; the items of a sequence have no first half, so using
it throws. -/
def pairs : Yaml → Option (List (Yaml × Yaml))
  | .null => some []
  | .scalar _ => some []
  | .sequence [] => some []
  | .sequence (_ :: _) => none
  | .map entries => some entries

/-- One entry of a conversion to a map of strings: of two entries with the same key the
later one stays. -/
def assignEntry (strings : UnorderedMap String String) (entry : Yaml × Yaml) :
    Option (UnorderedMap String String) := do
  let key ← entry.1.asString
  let value ← entry.2.asString
  some (strings.assign key value)

/-- Only a map converts to a map of strings. -/
def asStringMap : Yaml → Option (UnorderedMap String String)
  | .map entries => entries.foldlM assignEntry UnorderedMap.empty
  | _ => none

/-- The node a map of strings comes from. -/
def ofStringMap (fields : UnorderedMap String String) : Yaml :=
  .map (fields.nodes.map fun field => (.scalar field.1, .scalar field.2))

/-- Assigning the nodes of a map one by one, onto the first part of them, rebuilds it. -/
theorem foldlM_assign_nodes (rest : List (String × String)) :
    ∀ fields : UnorderedMap String String,
      ((fields.nodes ++ rest).map Prod.fst).Nodup →
      ∃ fields' : UnorderedMap String String, fields'.nodes = fields.nodes ++ rest ∧
        (rest.map fun field => (Yaml.scalar field.1, Yaml.scalar field.2)).foldlM
          assignEntry fields = some fields' := by
  induction rest with
  | nil => exact fun fields _ => ⟨fields, by simp, rfl⟩
  | cons field rest ih =>
    intro fields hnodup
    have hnew : field.1 ∉ fields.keys := by
      rw [List.map_append, List.map_cons] at hnodup
      intro hmem
      exact (List.nodup_append.mp hnodup).2.2 field.1 hmem field.1 List.mem_cons_self rfl
    have hnodes : (fields.assign field.1 field.2).nodes = fields.nodes ++ [field] :=
      UnorderedMap.nodes_assign_of_notMem hnew field.2
    obtain ⟨fields', hfields', hfold⟩ := ih (fields.assign field.1 field.2) (by
      rw [hnodes]; simpa using hnodup)
    refine ⟨fields', by rw [hfields', hnodes]; simp, ?_⟩
    simpa [assignEntry, asString] using hfold

/-- Every map of strings is what some node converts to. -/
theorem asStringMap_ofStringMap (fields : UnorderedMap String String) :
    (ofStringMap fields).asStringMap = some fields := by
  obtain ⟨fields', hnodes, hfold⟩ := foldlM_assign_nodes fields.nodes
    UnorderedMap.empty (by simpa [UnorderedMap.empty] using fields.nodup)
  have heq : fields' = fields := UnorderedMap.ext_nodes (by simpa [UnorderedMap.empty] using hnodes)
  rw [← heq] at hfold ⊢
  exact hfold

end Yaml

namespace YamlCpp

/-- yaml-cpp with the documented conversions, around an emitter and a parser. -/
def documented (emit : Yaml → String) (load : String → Option Yaml) : YamlCpp where
  emit
  load
  asString := Yaml.asString
  pairs := Yaml.pairs
  asStringMap := Yaml.asStringMap

/-- Without any text, for what is built from parsed nodes. -/
def textless : YamlCpp := documented (fun _ => "") fun _ => none

theorem coversStringMaps_documented (emit : Yaml → String) (load : String → Option Yaml) :
    (documented emit load).CoversStringMaps :=
  fun fields => ⟨Yaml.ofStringMap fields, Yaml.asStringMap_ofStringMap fields⟩

theorem coversStringMaps_textless : textless.CoversStringMaps :=
  coversStringMaps_documented _ _

end YamlCpp

end ComuFrame
