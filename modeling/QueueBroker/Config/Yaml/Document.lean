import QueueBroker.Config.Setting
import QueueBroker.Config.Yaml.Lexer
import QueueBroker.Config.Yaml.Node

/-!
# YAML files

The settings of a YAML file, which holds one document at most.
-/

namespace QueueBroker.Yaml

/-- The setting of a scalar. Of the words for numbers that are infinite or none, those with a point have no setting. -/
def Scalar.toSetting? : Scalar → Option Setting
  | nothing => some .nothing
  | boolean b => some (.boolean b)
  | integer n => some (.integer n)
  | real s => (Real.parse? s).map .real
  | text s => some (.text s)

/-- The name that a key stands for. -/
def Scalar.toKey? : Scalar → Option String
  | nothing => none
  | boolean b => some (if b then "true" else "false")
  | integer n => some (toString n)
  | real s => some s
  | text s => some s

mutual

/-- The setting of a node. -/
def Node.toSetting? : Node → Option Setting
  | .absent => some .nothing
  | .scalar s => s.toSetting?
  | .sequence items => (itemSettings? items).map .list
  | .mapping entries => (entrySettings? entries).map fun found => .table (Setting.distinct found)

/-- The settings of the items of a sequence. -/
def itemSettings? : List Node → Option (List Setting)
  | [] => some []
  | item :: items => do
    let v ← item.toSetting?
    let vs ← itemSettings? items
    some (v :: vs)

/-- The settings of the entries of a mapping. -/
def entrySettings? : List (Scalar × Node) → Option (List (String × Setting))
  | [] => some []
  | (key, value) :: entries => do
    let key ← key.toKey?
    let v ← value.toSetting?
    let vs ← entrySettings? entries
    some ((key, v) :: vs)

end

/-- The entries of a file, which holds a mapping or no document at all. -/
def parse? (s : String) : Option (List (String × Setting)) := do
  let tokens ← tokens? s
  match ← documents? tokens with
  | [] => some []
  | [root] =>
    match ← root.toSetting? with
    | .table entries => some entries
    | _ => none
  | _ => none

end QueueBroker.Yaml
