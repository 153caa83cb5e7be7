import QueueBroker.Number.Real

/-!
# TOML values
-/

namespace QueueBroker

/-- A value of a TOML document. -/
inductive Toml where
  | text (s : String)
  | integer (n : Int)
  | real (x : Real)
  | boolean (b : Bool)
  /-- A date, a time of day, or both, in its shortest text. -/
  | moment (s : String)
  | list (items : List Toml)
  | table (entries : List (String × Toml))
deriving Repr, Inhabited

end QueueBroker
