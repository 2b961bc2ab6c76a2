/-
This file holds the view of a lock at one moment: who holds it, for how long yet, and the
payload. A store reports the remaining lease as a count of milliseconds in which two negative
values have a meaning of their own; the snapshot gives the span instead and says whether the
lock is held at all.
-/

import Leasehold.Duration.Text
import Leasehold.Text.Quoted

namespace Leasehold

/-- The count a store gives for the remaining lease of a key that does not exist. -/
def missingKey : Int := -2

/-- The count a store gives for the remaining lease of a key that never expires. -/
def neverExpires : Int := -1

/-- What a store reads for a lock in one step: the value of its owner key, the remaining lease
in milliseconds, and the value of its data key. -/
structure Reading where
  owner : Option String
  remaining : Int
  data : Option String
  deriving DecidableEq

/-- A view of a lock at one moment. The payload is that of the last holder while nobody holds
the lock. -/
structure Snapshot where
  name : String
  acquired : Bool
  owner : Option String
  ttl : Duration
  data : Option String
  deriving DecidableEq

namespace Snapshot

/-- The snapshot of a reading. A lock is held while some of its lease remains. -/
def ofReading (name : String) (reading : Reading) : Snapshot where
  name := name
  acquired := (Duration.ofRemaining reading.remaining).nanos ≠ 0
  owner := reading.owner
  ttl := Duration.ofRemaining reading.remaining
  data := reading.data

/-- The snapshot of a lock that has no owner key. -/
def unacquired (name : String) : Snapshot := ofReading name ⟨none, missingKey, none⟩

/-- Whether a client holds the lock: the lock is held, and by the client's ID. -/
def isOwnedBy (snapshot : Snapshot) (id : String) : Bool :=
  snapshot.acquired && snapshot.owner == some id

/-- An optional text for a reader. -/
def optionalText : Option String → String
  | none => "None"
  | some text => "Some(" ++ quoted text ++ ")"

/-- A truth value for a reader. -/
def flagText (flag : Bool) : String := if flag then "true" else "false"

/-- The snapshot for a reader, on one line. -/
def text (snapshot : Snapshot) : String :=
  "LockInfo \x7b name: " ++ quoted snapshot.name ++ ", acquired: " ++ flagText snapshot.acquired ++
    ", owner: " ++ optionalText snapshot.owner ++ ", ttl: " ++ snapshot.ttl.text ++ ", data: " ++
    optionalText snapshot.data ++ " \x7d"

end Snapshot

end Leasehold
