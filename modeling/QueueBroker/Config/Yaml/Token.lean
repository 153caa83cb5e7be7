/-!
# YAML tokens

The marks, names and texts of a YAML file in order. Indentation has become marks as well: a collection that is shown by indentation
begins and ends with tokens of its own, and a key has a token before it.
-/

namespace QueueBroker.Yaml

/-- A piece of a YAML text. -/
inductive Token where
  /-- A directive that tells the version. -/
  | version
  /-- A directive that says what tags with a handle begin with. -/
  | handle (name start : String)
  | documentStart
  | documentEnd
  /-- The beginning of a sequence by indentation. -/
  | sequence
  /-- The beginning of a mapping by indentation. -/
  | mapping
  /-- The end of either. -/
  | dedent
  | openSequence
  | closeSequence
  | openMapping
  | closeMapping
  /-- The dash of an item. -/
  | dash
  | comma
  /-- What follows is a key. -/
  | key
  /-- What follows is the value of a key. -/
  | value
  | alias (name : String)
  | anchor (name : String)
  | tag (handle rest : String)
  /-- A scalar; only one without quotes and marks is plain. -/
  | scalar (plain : Bool) (text : String)
deriving DecidableEq, Repr

namespace Token

/-- Whether a token is a directive. -/
def isDirective : Token → Bool
  | version => true
  | handle _ _ => true
  | _ => false

end Token

end QueueBroker.Yaml
