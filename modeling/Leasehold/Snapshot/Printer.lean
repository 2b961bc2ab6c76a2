/-
This file writes a snapshot as JSON. It is an object of five members in the order of the
snapshot's fields; the remaining lease is an object of whole seconds and the nanoseconds
beyond them.
-/

import Leasehold.Json.Printer
import Leasehold.Snapshot

namespace Leasehold

open Json

/-- A span as JSON, standing `depth` objects deep. -/
def Duration.jsonText (layout : Layout) (depth : Nat) (duration : Duration) : String :=
  layout.object depth
    [layout.member "secs" (toString duration.seconds),
      layout.member "nanos" (toString duration.subsecondNanos)]

namespace Snapshot

/-- A snapshot as JSON in the layout given. -/
def jsonTextIn (layout : Layout) (snapshot : Snapshot) : String :=
  layout.object 0
    [layout.member "name" (stringText snapshot.name),
      layout.member "acquired" (flagText snapshot.acquired),
      layout.member "owner" (optionalStringText snapshot.owner),
      layout.member "ttl" (snapshot.ttl.jsonText layout 1),
      layout.member "data" (optionalStringText snapshot.data)]

/-- A snapshot as JSON without blanks. -/
def jsonText (snapshot : Snapshot) : String := snapshot.jsonTextIn .compact

/-- A snapshot as JSON with a member to a line. -/
def prettyJsonText (snapshot : Snapshot) : String := snapshot.jsonTextIn .indented

end Snapshot

end Leasehold
