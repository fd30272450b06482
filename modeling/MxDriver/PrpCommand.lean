import MxDriver.ScatterGather

/-!
# Commands with physical regions

The commands that the two hardware revisions build for a slice, and how the device
reads them.  The device side is written from the rule of the hardware, not from the
driver: a descriptor has no length, so the device takes the first one up to the next
boundary and every later one whole, and cuts the last one at the size of the command.
-/

namespace MxDriver

/-- `PAGE_SIZE`. -/
def pageSize : Nat := 2 ^ 12

namespace Revision

/-- `SINGLE_DMA_SIZE`. -/
def dmaSize : Revision → Nat
  | v1 => 2 ^ 10
  | v2 => pageSize

/-- `NUM_OF_DESC_PER_LIST`. -/
def descsPerList (revision : Revision) : Nat := revision.dmaSize / 8

end Revision

/-- The chunk size of the descriptors, and the slots of a list page, the last of which
may be a link. -/
structure PrpFormat where
  dmaSize : Nat
  descsPerList : Nat
  chunked : ∃ bits, dmaSize = 2 ^ bits
  slots : 2 ≤ descsPerList

/-- The format that a revision is compiled with. -/
def Revision.format (revision : Revision) : PrpFormat where
  dmaSize := revision.dmaSize
  descsPerList := revision.descsPerList
  chunked := match revision with
    | .v1 => ⟨10, rfl⟩
    | .v2 => ⟨12, rfl⟩
  slots := by cases revision <;> decide

/-- The part of a transfer that a command is made of. -/
structure SgTransfer where
  id : Nat
  size : Nat
  deviceAddr : UInt64
  sgByteOffset : Nat
  deriving DecidableEq, Repr

inductive PageMode
  | single
  | multi
  deriving DecidableEq, Repr

/-- `struct mx_command` of the first revision; `hostAddr` and `prp_entry1` are one
field. -/
structure MxCommandV1 where
  opcode : Nat
  id : Nat
  size : Nat
  deviceAddr : UInt64
  pageMode : PageMode
  hostAddr : Nat
  deriving DecidableEq, Repr

/-- `struct mx_command` of the second revision. -/
structure MxCommandV2 where
  opcode : Nat
  commandId : Nat
  size : Nat
  deviceAddr : UInt64
  prpEntry1 : Nat
  prpEntry2 : Nat
  deriving DecidableEq, Repr

inductive MxCommand
  | v1 (command : MxCommandV1)
  | v2 (command : MxCommandV2)
  deriving DecidableEq, Repr

/-- A command, and the descriptor pages that go with it. -/
abbrev Built (α : Type) := α × LinkedPages.Memory Nat

/-- No descriptor page is written. -/
def noPages : LinkedPages.Memory Nat := fun _ _ => none

/-! ## The first revision -/

/-- `create_mx_command_sg` of the first revision, for any format. -/
def createMxCommandSgV1With (format : PrpFormat) (pool : DescPool) (entries : List SgEntry)
    (transfer : SgTransfer) (opcode : Nat) : Except Errno (Built MxCommandV1) :=
  let command (pageMode : PageMode) (hostAddr : Nat) : MxCommandV1 :=
    ⟨opcode, transfer.id, transfer.size, transfer.deviceAddr, pageMode, hostAddr⟩
  match mxSgLocate entries transfer.sgByteOffset with
  | .error error => .error error
  | .ok (entry, rest, intraOff) =>
    if transfer.size ≤ mxPrpFirstChunkLen entry intraOff format.dmaSize then
      if entry.address + intraOff = 0 then .error .einval
      else .ok (command .single (entry.address + intraOff), noPages)
    else
      match mxGetTotalDescCount entry rest intraOff transfer.size format.dmaSize with
      | .error error => .error error
      | .ok descCnt =>
        (mxDescListInit pool entries transfer.sgByteOffset transfer.size
          format.dmaSize format.descsPerList false descCnt).map
          fun written => (command .multi written.1, written.2)

def createMxCommandSgV1 (pool : DescPool) (entries : List SgEntry) (transfer : SgTransfer)
    (opcode : Nat) : Except Errno (Built MxCommandV1) :=
  createMxCommandSgV1With Revision.v1.format pool entries transfer opcode

/-! ## The second revision -/

/-- `prp_entry2` for two descriptors. -/
def secondPrpEntry (dmaSize : Nat) (entry : SgEntry) (rest : List SgEntry) (intraOff : Nat) :
    Except Errno Nat :=
  let firstLen := mxPrpFirstChunkLen entry intraOff dmaSize
  let second : Except Errno Nat :=
    if intraOff + firstLen < entry.length then .ok (entry.address + intraOff + firstLen)
    else
      match rest with
      | [] => .error .einval
      | next :: _ => .ok next.address
  second.bind fun address => if address = 0 then .error .einval else .ok address

/-- `create_mx_command_sg` of the second revision, for any format. -/
def createMxCommandSgV2With (format : PrpFormat) (pool : DescPool) (entries : List SgEntry)
    (transfer : SgTransfer) (opcode : Nat) : Except Errno (Built MxCommandV2) :=
  match mxSgLocate entries transfer.sgByteOffset with
  | .error error => .error error
  | .ok (entry, rest, intraOff) =>
    let command (prpEntry2 : Nat) : MxCommandV2 :=
      ⟨opcode, transfer.id, transfer.size, transfer.deviceAddr,
        entry.address + intraOff, prpEntry2⟩
    if entry.address + intraOff = 0 then .error .einval
    else
      match mxGetTotalDescCount entry rest intraOff transfer.size format.dmaSize with
      | .error error => .error error
      | .ok 0 => .error .einval
      | .ok 1 => .ok (command 0, noPages)
      | .ok 2 =>
        (secondPrpEntry format.dmaSize entry rest intraOff).map
          fun address => (command address, noPages)
      | .ok descCnt =>
        (mxDescListInit pool entries transfer.sgByteOffset transfer.size
          format.dmaSize format.descsPerList true (descCnt - 1)).map
          fun written => (command written.1, written.2)

def createMxCommandSgV2 (pool : DescPool) (entries : List SgEntry) (transfer : SgTransfer)
    (opcode : Nat) : Except Errno (Built MxCommandV2) :=
  createMxCommandSgV2With Revision.v2.format pool entries transfer opcode

/-- `create_mx_command_sg` of either revision, for any format. -/
def createMxCommandSgWith (revision : Revision) (format : PrpFormat) (pool : DescPool)
    (entries : List SgEntry) (transfer : SgTransfer) (opcode : Nat) :
    Except Errno (Built MxCommand) :=
  match revision with
  | .v1 => (createMxCommandSgV1With format pool entries transfer opcode).map
      fun built => (.v1 built.1, built.2)
  | .v2 => (createMxCommandSgV2With format pool entries transfer opcode).map
      fun built => (.v2 built.1, built.2)

/-- `create_mx_command_sg` of either revision. -/
def createMxCommandSg (revision : Revision) (pool : DescPool) (entries : List SgEntry)
    (transfer : SgTransfer) (opcode : Nat) : Except Errno (Built MxCommand) :=
  createMxCommandSgWith revision revision.format pool entries transfer opcode

/-! ## What the device reads -/

/-- Descriptors after the first one: each is a whole chunk, the last is cut. -/
def laterBytes (dmaSize : Nat) : List Nat → Nat → List Nat
  | [], _ => []
  | address :: addresses, remaining =>
    List.range' address (min dmaSize remaining) ++
      laterBytes dmaSize addresses (remaining - dmaSize)

/-- All descriptors: the first reaches up to the next boundary. -/
def prpBytes (dmaSize : Nat) : List Nat → Nat → List Nat
  | [], _ => []
  | address :: addresses, size =>
    List.range' address (min (toBoundary dmaSize address) size) ++
      laterBytes dmaSize addresses (size - toBoundary dmaSize address)

/-- A device of the first revision that is made for a format. -/
def deviceReadV1With (format : PrpFormat) (command : MxCommandV1)
    (memory : LinkedPages.Memory Nat) : Option (List Nat) :=
  match command.pageMode with
  | .single => some (List.range' command.hostAddr command.size)
  | .multi =>
    (memory command.hostAddr 0).bind fun first =>
      (LinkedPages.read format.descsPerList memory
        (chunkCount format.dmaSize first command.size) command.hostAddr 0).map
        fun descs => prpBytes format.dmaSize descs command.size

/-- A device of the second revision that is made for a format. -/
def deviceReadV2With (format : PrpFormat) (command : MxCommandV2)
    (memory : LinkedPages.Memory Nat) : Option (List Nat) :=
  let chunks := chunkCount format.dmaSize command.prpEntry1 command.size
  if chunks = 1 then some (prpBytes format.dmaSize [command.prpEntry1] command.size)
  else if chunks = 2 then
    some (prpBytes format.dmaSize [command.prpEntry1, command.prpEntry2] command.size)
  else
    (LinkedPages.read format.descsPerList memory (chunks - 1) command.prpEntry2 0).map
      fun descs => prpBytes format.dmaSize (command.prpEntry1 :: descs) command.size

def deviceReadV1 (command : MxCommandV1) (memory : LinkedPages.Memory Nat) : Option (List Nat) :=
  deviceReadV1With Revision.v1.format command memory

def deviceReadV2 (command : MxCommandV2) (memory : LinkedPages.Memory Nat) : Option (List Nat) :=
  deviceReadV2With Revision.v2.format command memory

/-- The host bytes of a command in the order in which the device moves them. -/
def deviceRead (command : MxCommand) (memory : LinkedPages.Memory Nat) : Option (List Nat) :=
  match command with
  | .v1 command => deviceReadV1 command memory
  | .v2 command => deviceReadV2 command memory

end MxDriver
