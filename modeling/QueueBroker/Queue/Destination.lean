import QueueBroker.Error

/-!
# Destination names

The name of a destination is also the name of its log file, and with a suffix that of its checkpoint file. A name is valid when
both are plain file names and no log is called like a checkpoint file.
-/

namespace QueueBroker.Destination

/-- What is added to the name of a destination to name its checkpoint file. -/
def checkpointSuffix : String :=
  "-checkpoint"

/-- The longest file name, in bytes. -/
def maxFileName : Nat := 255

/-- The longest name of a destination, in bytes: its checkpoint file must be nameable too. -/
def maxLength : Nat :=
  maxFileName - Utf8.length checkpointSuffix

/-- The name of the log file. -/
def logName (name : String) : String :=
  name

/-- The name of the checkpoint file. -/
def checkpointName (name : String) : String :=
  name ++ checkpointSuffix

/-- The characters that cannot stand in a name. -/
def isSeparator (c : Char) : Bool :=
  c == '/' || c == '\\' || c == '\x00'

/-- What is wrong with a name, if anything. -/
def fault? (name : String) : Option NameFault :=
  if name.isEmpty then some .empty
  else if maxLength < Utf8.length name then some .tooLong
  else if name = "." ∨ name = ".." then some .relative
  else if name.toList.any isSeparator then some .separator
  else if checkpointSuffix.toList.isSuffixOf name.toList then some .checkpoint
  else none

/-- Accept a valid name, or say what is wrong with it. -/
def validate (name : String) : Except BrokerError Unit :=
  match fault? name with
  | none => .ok ()
  | some fault => .error (.destination (.refused name fault))

end QueueBroker.Destination
