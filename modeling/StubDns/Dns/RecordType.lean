/-! # Record types

The customary names of record types. A type without a name is called by its
number.
-/

namespace StubDns.RecordType

def name (code : UInt16) : String :=
  if code = 1 then "A"
  else if code = 2 then "NS"
  else if code = 5 then "CNAME"
  else if code = 15 then "MX"
  else if code = 16 then "TXT"
  else if code = 28 then "AAAA"
  else if code = 33 then "SRV"
  else s!"TYPE{code.toNat}"

end StubDns.RecordType
