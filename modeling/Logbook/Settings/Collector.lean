import Logbook.Event
import Logbook.Path
import Logbook.Settings.Store

/-!
# Settings of the collector

## Main definitions

* `CollectorSettings` — the home folder and the bounds that the collector keeps to.
* `CollectorSettings.inHome` — the settings of a home folder, with defaults for the rest.
-/

namespace Logbook

/-- The settings of the collector. -/
structure CollectorSettings where
  /-- The folder of the state file. -/
  home : String
  /-- The settings of the store. -/
  store : StoreSettings
  /-- The milliseconds between two evictions. -/
  evictionMillis : Nat := 5000
  /-- How many requests may wait; at least one may. -/
  inboxCapacity : Nat := 300
  /-- The greatest number of events on a page where a reader names none. -/
  defaultLimit : Nat := 500
  /-- The greatest number of events on a page that a reader may name. -/
  maxLimit : Nat := 10000
  /-- The greatest size of a message; what goes beyond is cut off. -/
  maxMessageSize : Nat := defaultMessageSize
  deriving DecidableEq, Repr

namespace CollectorSettings

/-- The path of the database in a home folder. -/
def storePathIn (home : String) : String := Path.join (Path.join home "logs") "events.redb"

/-- The settings of a home folder. -/
def inHome (home : String) : CollectorSettings where
  home := home
  store := { path := storePathIn home }

/-- The home folder where none is set. -/
def defaultHome : String := "./logd-data"

/-- The path of the state file. -/
def statePath (s : CollectorSettings) : String := Path.join s.home "logd.json"

/-- The settings with another policy of retention. -/
def withRetention (s : CollectorSettings) (r : Retention) : CollectorSettings :=
  { s with store := { s.store with retention := r } }

/-- The settings with or without waiting for writes. -/
def withSyncOnWrite (s : CollectorSettings) (sync : Bool) : CollectorSettings :=
  { s with store := { s.store with syncOnWrite := sync } }

end CollectorSettings

end Logbook
