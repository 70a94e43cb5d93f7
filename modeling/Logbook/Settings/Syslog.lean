import Logbook.Settings.Address

/-!
# Settings of the syslog listener

## Main definitions

* `SyslogSettings` — where packets are received and how long they may be.
-/

namespace Logbook

/-- The settings of the syslog listener. -/
structure SyslogSettings where
  /-- Where packets are received. -/
  bind : Endpoint := ⟨.v4 [127, 0, 0, 1], 4500⟩
  /-- The greatest size of a packet; what goes beyond is cut off. -/
  maxPacketSize : Nat := 8192
  deriving DecidableEq, Repr

namespace SyslogSettings

/-- The port where none is set. -/
def defaultPort : UInt16 := 4500

/-- The settings with another endpoint. -/
def withBind (s : SyslogSettings) (e : Endpoint) : SyslogSettings := { s with bind := e }

/-- The settings with another port. -/
def withPort (s : SyslogSettings) (port : UInt16) : SyslogSettings :=
  { s with bind := { s.bind with port := port } }

end SyslogSettings

end Logbook
