import Std.Time.DateTime.Timestamp
import Retention.Calendar.Moment

/-! # The clock

Reads the clock of the machine in universal time.
-/

namespace Retention.Calendar

def Moment.now : BaseIO Moment := do
  let stamp ← (Std.Time.Timestamp.now).toBaseIO
  match stamp with
  | .ok t => return Moment.ofEpochMicros (t.toNanosecondsSinceUnixEpoch.toInt / 1000)
  | .error _ => return Moment.ofEpochMicros 0

end Retention.Calendar
