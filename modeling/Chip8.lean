import Chip8.Instruction.Reading
import Chip8.Main
import Chip8.Memory.Access
import Chip8.Proofs.Arithmetic
import Chip8.Proofs.ByteStore
import Chip8.Proofs.Cadence
import Chip8.Proofs.CallStack
import Chip8.Proofs.DeadState
import Chip8.Proofs.Drawings
import Chip8.Proofs.Enumeration
import Chip8.Proofs.FaultRules
import Chip8.Proofs.HoldTimes
import Chip8.Proofs.KeyStream
import Chip8.Proofs.KeyWaits
import Chip8.Proofs.Listings
import Chip8.Proofs.Loading
import Chip8.Proofs.RandomBytes
import Chip8.Proofs.RegisterBlocks
import Chip8.Proofs.Replay
import Chip8.Proofs.Soundness
import Chip8.Proofs.Timekeeping
