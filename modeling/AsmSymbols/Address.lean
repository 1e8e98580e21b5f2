import AsmSymbols.Json
import AsmSymbols.Table

/-!
# Addresses

An address table gives symbols their 64-bit addresses.  When a data section is placed in front of
the code, every address moves up by the size of the section.  An address that would leave the
address space stops the move: the symbols in front of it have moved, it and the others have not.
-/

set_option autoImplicit false

namespace AsmSymbols

abbrev AddressTable := Table Text UInt64

/-- Number of addresses. -/
def addressSpace : Nat := UInt64.size

namespace AddressTable

def add (table : AddressTable) (symbol : Text) (address : UInt64) : AddressTable :=
  table.insert symbol address

/-- Move entries up by `offset`, and tell whether all of them have moved. -/
def moveEntries (offset : UInt64) : List (Text × UInt64) → List (Text × UInt64) × Bool
  | [] => ([], true)
  | (symbol, address) :: rest =>
    if address.toNat + offset.toNat < addressSpace then
      let (moved, complete) := moveEntries offset rest
      ((symbol, address + offset) :: moved, complete)
    else
      ((symbol, address) :: rest, false)

/-- The outcome of a move.  It is incomplete when an address left the address space. -/
structure Move where
  table : AddressTable
  complete : Bool
  deriving DecidableEq

/-- Make room for a data section of `offset` words in front of every symbol. -/
def makeRoom (table : AddressTable) (offset : UInt64) : Move :=
  let (moved, complete) := moveEntries offset table.entries
  ⟨⟨moved⟩, complete⟩

def json (table : AddressTable) : Json :=
  .object (table.entries.map fun (symbol, address) => (symbol, .number address.toNat))

end AddressTable

end AsmSymbols
