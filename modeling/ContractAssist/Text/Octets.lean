import ContractAssist.Text.Utf8

/-!
# Octets — bytes as characters

Programs pass bytes to each other. Where they are inspected, each byte is a character of its own,
whose code is the byte.

* `ofBytes` and `toBytes` go from bytes to such characters and back;
* `ofText` and `toText` do so for the UTF-8 form of a text.
-/

namespace ContractAssist

/-- One character for each byte. -/
def ofBytes (bytes : Bytes) : Text :=
  bytes.map fun b => Char.ofNat b.toNat

def toBytes (t : Text) : Bytes :=
  t.map fun c => UInt8.ofNat c.toNat

def ofText (t : Text) : Text :=
  ofBytes (Utf8.encode t)

def toText (t : Text) : Text :=
  Utf8.lossy (toBytes t)

end ContractAssist
