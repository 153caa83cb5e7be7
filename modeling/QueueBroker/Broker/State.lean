/-!
# States of a broker
-/

namespace QueueBroker

/-- The life of a broker. There is no way back from `stopped`. -/
inductive BrokerState where
  /-- Made, not yet listening. -/
  | created
  /-- Accepting connections. -/
  | started
  /-- Shut down for good. -/
  | stopped
deriving DecidableEq, Repr, Inhabited

/-- The name of a state. -/
def BrokerState.name : BrokerState → String
  | created => "created"
  | started => "started"
  | stopped => "stopped"

/-- All states, in the order of a life. -/
def BrokerState.all : List BrokerState :=
  [created, started, stopped]

end QueueBroker
