/-
This file makes stores within the process a service. There may be several of them, told apart
by number, and one comes into being when it is first named.
-/

import Leasehold.Session
import Leasehold.Store.Dialect

namespace Leasehold

/-- Stores within the process, by number. -/
structure Stores where
  all : List Store

namespace Stores

/-- One store, with number zero. -/
def single : Stores := ⟨[.empty]⟩

/-- The stores with all up to a number in being. -/
def upTo (stores : Stores) (number : Nat) : Stores :=
  ⟨stores.all ++ List.replicate (number + 1 - stores.all.length) .empty⟩

/-- The store of a number. One that has not come into being is empty. -/
def get (stores : Stores) (number : Nat) : Store := stores.all[number]?.getD .empty

/-- The stores with that of a number replaced. -/
def put (stores : Stores) (number : Nat) (store : Store) : Stores :=
  ⟨(stores.upTo number).all.set number store⟩

/-- Performs a request of a client on the store of a number. -/
def perform (now number : Nat) (request : Store.Request) (stores : Stores) :
    request.Answer × Stores :=
  let (answer, store) := (stores.get number).perform now request
  (answer, stores.put number store)

/-- Ways to interfere with a store. -/
inductive Action where
  | setAvailable (number : Nat) (available : Bool)
  | setWriteFailures (number : Nat) (failing : Bool)
  /-- Only names a store. -/
  | name (number : Nat)

/-- Interferes with a store. -/
def interfere (_now : Nat) (stores : Stores) : Action → Stores
  | .setAvailable number available => stores.put number ((stores.get number).setAvailable available)
  | .setWriteFailures number failing =>
    stores.put number ((stores.get number).setWriteFailures failing)
  | .name number => stores.upTo number

/-- Stores as a service. What a client is told, and what it connects to, is the number of its
store. -/
def backend : Backend Nat Nat Stores Action Store.Request Store.Request.Answer where
  dialect := Store.dialect
  prepare number stores := (.ok number, stores.upTo number)
  perform := perform
  interfere := interfere

/-- For each store the number of requests it has counted and the number of its live entries,
which drops the others. -/
def counts (now : Nat) (stores : Stores) : List (Nat × Nat) × Stores :=
  let counted := stores.all.map (Store.count now)
  (counted.zipWith (fun pair store => (store.operations.toNat, pair.1)) stores.all,
    ⟨counted.map Prod.snd⟩)

end Stores

end Leasehold
