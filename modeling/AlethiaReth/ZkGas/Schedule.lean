import AlethiaReth.Primitives

/-!
The zk gas schedules: the proving-cost multipliers of opcodes and precompiles,
the fixed estimates of the opcodes that open child work, and the budget of a
block.
-/

namespace AlethiaReth

open MachineInt

/-- The multiplier of anything a schedule does not list. -/
def failsafeMultiplier : U16 := BitVec.allOnes 16

/-- Fixed raw-gas estimates for spawn opcodes. -/
structure SpawnEstimates where
  call : U64
  callcode : U64
  delegatecall : U64
  staticcall : U64
  create : U64
  create2 : U64
  deriving DecidableEq, Repr

/-- The zk gas schedule of a fork. -/
structure ZkGasSchedule where
  blockLimit : U64
  txIntrinsicZkGas : U64
  opcodeMultipliers : U8 → U16
  precompileMultipliers : List (Address × U16)
  spawnEstimates : SpawnEstimates

/-- The multiplier of a precompile, the fail-safe one when it is not listed. -/
def ZkGasSchedule.precompileMultiplier (schedule : ZkGasSchedule) (address : Address) : U16 :=
  (schedule.precompileMultipliers.lookup address).getD failsafeMultiplier

/-- Whether an opcode belongs to the CALL/CREATE family. -/
def isSpawnOpcode (opcode : U8) : Bool :=
  opcode = 0xf0 || opcode = 0xf1 || opcode = 0xf2 || opcode = 0xf4 || opcode = 0xf5 ||
    opcode = 0xfa

/-- An opcode of the CALL/CREATE family. -/
def SpawnOpcode := { opcode : U8 // isSpawnOpcode opcode }

/-- The raw-gas estimate of a spawn opcode.  The last branch is `STATICCALL`, the
only member of the family left. -/
def spawnEstimate (schedule : ZkGasSchedule) (opcode : SpawnOpcode) : U64 :=
  if opcode.val = 0xf1 then schedule.spawnEstimates.call
  else if opcode.val = 0xf2 then schedule.spawnEstimates.callcode
  else if opcode.val = 0xf4 then schedule.spawnEstimates.delegatecall
  else if opcode.val = 0xf0 then schedule.spawnEstimates.create
  else if opcode.val = 0xf5 then schedule.spawnEstimates.create2
  else schedule.spawnEstimates.staticcall

/-! ### The Unzen schedule -/

/-- The zk gas of a block. -/
def blockZkGasLimit : U64 := 100000000

/-- The zk gas of a transaction for being there. -/
def txIntrinsicZkGas : U64 := 243000

/-- The opcode multipliers of Unzen, by opcode byte. -/
def unzenOpcodeMultiplierTable : List (U8 × U16) :=
  [(0x00, 0), (0x01, 19), (0x02, 19), (0x03, 22), (0x04, 76), (0x05, 78), (0x06, 66),
   (0x07, 28), (0x08, 52), (0x09, 113), (0x0a, 21), (0x0b, 17), (0x10, 19), (0x11, 19),
   (0x12, 20), (0x13, 19), (0x14, 36), (0x15, 16), (0x16, 19), (0x17, 20), (0x18, 18),
   (0x19, 15), (0x1a, 17), (0x1b, 24), (0x1c, 22), (0x1d, 21), (0x1e, 14), (0x20, 31),
   (0x30, 19), (0x31, 4), (0x32, 21), (0x33, 18), (0x34, 11), (0x35, 22), (0x36, 13),
   (0x37, 13), (0x38, 11), (0x39, 12), (0x3a, 15), (0x3b, 4), (0x3c, 4), (0x3d, 12), (0x3e, 10),
   (0x3f, 7), (0x40, 6), (0x41, 18), (0x42, 10), (0x43, 12), (0x44, 42), (0x45, 13), (0x46, 11),
   (0x47, 52), (0x48, 14), (0x49, 13), (0x4a, 15), (0x50, 10), (0x51, 18), (0x52, 29),
   (0x53, 10), (0x54, 3), (0x55, 5), (0x56, 4), (0x57, 5), (0x58, 13), (0x59, 13), (0x5a, 11),
   (0x5b, 20), (0x5c, 1), (0x5d, 5), (0x5e, 4), (0x5f, 13), (0x60, 9), (0x61, 8), (0x62, 9),
   (0x63, 10), (0x64, 9), (0x65, 12), (0x66, 10), (0x67, 15), (0x68, 13), (0x69, 12),
   (0x6a, 12), (0x6b, 15), (0x6c, 15), (0x6d, 17), (0x6e, 21), (0x6f, 13), (0x70, 20),
   (0x71, 18), (0x72, 20), (0x73, 20), (0x74, 18), (0x75, 14), (0x76, 22), (0x77, 24),
   (0x78, 22), (0x79, 24), (0x7a, 16), (0x7b, 17), (0x7c, 28), (0x7d, 29), (0x7e, 16),
   (0x7f, 19), (0x80, 10), (0x81, 8), (0x82, 9), (0x83, 10), (0x84, 11), (0x85, 8), (0x86, 8),
   (0x87, 10), (0x88, 9), (0x89, 10), (0x8a, 10), (0x8b, 9), (0x8c, 9), (0x8d, 8), (0x8e, 8),
   (0x8f, 10), (0x90, 31), (0x91, 30), (0x92, 32), (0x93, 31), (0x94, 33), (0x95, 34),
   (0x96, 31), (0x97, 30), (0x98, 32), (0x99, 31), (0x9a, 33), (0x9b, 32), (0x9c, 31),
   (0x9d, 31), (0x9e, 36), (0x9f, 31), (0xa0, 3), (0xa1, 3), (0xa2, 2), (0xa3, 2), (0xa4, 2),
   (0xf0, 1), (0xf1, 20), (0xf2, 20), (0xf3, 0), (0xf4, 17), (0xf5, 1), (0xfa, 23), (0xfd, 0),
   (0xfe, 0), (0xff, 0)]

/-- Opcodes the table does not list take the fail-safe multiplier. -/
def unzenOpcodeMultipliers (opcode : U8) : U16 :=
  (unzenOpcodeMultiplierTable.lookup opcode).getD failsafeMultiplier

/-- The precompile multipliers of Unzen, by full address. -/
def unzenPrecompileMultipliers : List (Address × U16) :=
  [(0x01, 47), (0x02, 10), (0x03, 4), (0x04, 6), (0x05, 154), (0x06, 19), (0x07, 58),
   (0x08, 54), (0x09, 166), (0x0a, 859), (0x0b, 201), (0x0c, 93), (0x0d, 230), (0x0e, 71),
   (0x0f, 365), (0x10, 246), (0x11, 208), (0x100, 163)]

/-- The schedule of Unzen. -/
def unzenZkGasSchedule : ZkGasSchedule where
  blockLimit := blockZkGasLimit
  txIntrinsicZkGas := txIntrinsicZkGas
  opcodeMultipliers := unzenOpcodeMultipliers
  precompileMultipliers := unzenPrecompileMultipliers
  spawnEstimates :=
    { call := 12500, callcode := 12500, delegatecall := 3500, staticcall := 3500,
      create := 37000, create2 := 44500 }

end AlethiaReth
