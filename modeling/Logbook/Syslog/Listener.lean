import Logbook.Collector
import Logbook.Settings.Syslog
import Logbook.Syslog.Reading
import Logbook.Syslog.Routing

/-!
# The syslog listener

A listener takes in packets and adds what they hold to the logs of a collector.  A packet that is no
message, that belongs to no log or that the collector finds unacceptable is dropped; any other failure
ends the listener.

## Main definitions

* `Syslog.receive`, `Syslog.receiveAll` — what a listener does with one packet, and with several.
* `Syslog.listen` — what it does with packets that arrive one after another, once it has a buffer for them.
-/

namespace Logbook.Syslog

/-- A packet as it is received: what goes beyond the greatest size is cut off. -/
def received (s : SyslogSettings) (packet : Bytes) : Bytes := packet.take (max s.maxPacketSize 1)

/-- What a packet adds to a log. -/
def entryOf (packet : Bytes) : Except SyslogError Entry := do
  let m ← read packet
  route m

/-- Takes in a packet. -/
def receive (s : SyslogSettings) (packet : Bytes) (c : Collector) (w : World) :
    Except CollectorError Unit × Collector × World :=
  match entryOf (received s packet) with
  | .error _ => (.ok (), c, w)
  | .ok e => match c.addEvent e.log e.timestamp e.message w with
    | (.ok _, c, w) => (.ok (), c, w)
    | (.error error, c, w) => (if error.isValidation then .ok () else .error error, c, w)

/-- Takes in packets up to the first that ends the listener. -/
def receiveAll (s : SyslogSettings) (c : Collector) (w : World) :
    List Bytes → Except CollectorError Unit × Collector × World
  | [] => (.ok (), c, w)
  | packet :: rest => match receive s packet c w with
    | (.ok (), c, w) => receiveAll s c w rest
    | (.error error, c, w) => (.error error, c, w)

/-- Gets a buffer that a packet of the greatest size fits in, and takes in packets.  If there is no such buffer, the
listener breaks off before it receives anything. -/
def listen (s : SyslogSettings) (c : Collector) (w : World) (packets : List Bytes) :
    Except CollectorError Unit × Collector × World :=
  if max s.maxPacketSize 1 ≤ Worker.largestBuffer then receiveAll s c w packets
  else (.error (.broken "capacity overflow"), c, w)

end Logbook.Syslog
