import P2POverlay.Octets

/-!
# Node and request identifiers

A node identifier and every DHT key is 32 octets; a request identifier is 16. The
text form has two lower-case hexadecimal digits for each octet, and parsing
refuses any other length before it looks at a digit.
-/

namespace P2POverlay

open Octets

/-- A 256-bit identifier for nodes and DHT keys. Its order is that of the octets, the first
one being the most significant. -/
structure NodeID where
  data : Vector UInt8 32
deriving DecidableEq

/-- A 16-octet identifier that matches a response to its request. It is drawn at random, and
nothing makes two of them different. -/
structure RequestID where
  data : Vector UInt8 16
deriving DecidableEq

/-- Parse exactly `n` octets of hexadecimal text. -/
def arrayFromHex (n : Nat) (hex : Bytes) : Option (Vector UInt8 n) :=
  if hex.length ≠ n * 2 then none else (fromHex hex).map (array n)

/-- The text of an array parses back to it. -/
theorem arrayFromHex_toHex {n : Nat} (data : Vector UInt8 n) :
    arrayFromHex n (toHex data.toList) = some data := by
  have width : (toHex data.toList).length = n * 2 := by
    simp [Nat.mul_comm]
  simp [arrayFromHex, width, fromHex_toHex]

namespace NodeID

/-- The value-initialised identifier. -/
def zero : NodeID := ⟨Vector.replicate 32 0⟩

/-- An identifier is determined by its octets. -/
theorem eq_of_octets {id other : NodeID} (same : id.data.toList = other.data.toList) :
    id = other := by
  obtain ⟨data⟩ := id
  obtain ⟨otherData⟩ := other
  exact congrArg NodeID.mk (Vector.toList_inj.mp same)

/-- The hexadecimal text of an identifier, with lower-case digits. -/
def toHex (id : NodeID) : Bytes := Octets.toHex id.data.toList

/-- Read an identifier from hexadecimal digits of either case. Any other length is refused. -/
def fromHex (hex : Bytes) : Option NodeID := (arrayFromHex 32 hex).map NodeID.mk

/-- What is written is read back. -/
@[simp] theorem fromHex_toHex (id : NodeID) : fromHex id.toHex = some id := by
  simp [fromHex, toHex, arrayFromHex_toHex]

end NodeID

namespace RequestID

/-- The value-initialised identifier. -/
def zero : RequestID := ⟨Vector.replicate 16 0⟩

/-- The hexadecimal text of a request identifier. -/
def toHex (id : RequestID) : Bytes := Octets.toHex id.data.toList

/-- Read a request identifier from 32 hexadecimal digits. -/
def fromHex (hex : Bytes) : Option RequestID := (arrayFromHex 16 hex).map RequestID.mk

/-- What is written is read back. -/
@[simp] theorem fromHex_toHex (id : RequestID) : fromHex id.toHex = some id := by
  simp [fromHex, toHex, arrayFromHex_toHex]

end RequestID

end P2POverlay
