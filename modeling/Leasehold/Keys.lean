/-
This file holds the layout of keys. A lock takes two keys of the store: the owner key, which
says who holds it, and the data key, which holds the payload. Both begin with the namespace
of the client the lock was made by, so that separate applications can share one store.
-/

namespace Leasehold

/-- The namespace of a client that was given none. -/
def defaultNamespace : String := "glock"

/-- The namespace given, or the default for none and for the empty one. -/
def namespaceOrDefault (given : Option String) : String :=
  match given with
  | some space => if space.isEmpty then defaultNamespace else space
  | none => defaultNamespace

/-- The key that holds the ID of a lock's holder: namespace, colon, name. -/
def ownerKey (space name : String) : String := space ++ ":" ++ name

/-- The key that holds a lock's payload: the owner key followed by `:data`. -/
def dataKey (space name : String) : String := space ++ ":" ++ name ++ ":data"

/-- The two keys of a lock. -/
structure KeyPair where
  owner : String
  data : String
  deriving DecidableEq

/-- The keys of the lock of a name in a namespace. -/
def KeyPair.ofName (space name : String) : KeyPair := ⟨ownerKey space name, dataKey space name⟩

theorem dataKey_eq (space name : String) : dataKey space name = ownerKey space name ++ ":data" :=
  rfl

end Leasehold
