import Playstation.FileTree
import Playstation.Main
import Playstation.Proofs.Dma.ListWalk
import Playstation.Proofs.Dma.Transfer
import Playstation.Proofs.Cpu.OneBank
import Playstation.Proofs.Cpu.TwoBanks
import Playstation.Proofs.Cpu.CommitLaw
import Playstation.Proofs.Cop0
import Playstation.Proofs.Cpu.PreciseException
import Playstation.Proofs.Checked.Word
import Playstation.Proofs.Checked.Address
import Playstation.Proofs.Checked.Memory
import Playstation.Proofs.Checked.Device
import Playstation.Proofs.Checked.Cursor
import Playstation.Proofs.Checked.Gpu
import Playstation.Proofs.Checked.Dma
import Playstation.Proofs.Checked.Transfer
import Playstation.Proofs.Checked.Bus
import Playstation.Proofs.Checked.Instruction
import Playstation.Proofs.Checked.Arithmetic
import Playstation.Proofs.Checked.Cop0
import Playstation.Proofs.Checked.Cpu
import Playstation.Proofs.Checked.Step
import Playstation.Proofs.Bus.Access
import Playstation.Proofs.Cpu.Program
import Playstation.Proofs.Cpu.DelaySlot
import Playstation.Proofs.Cpu.Store
import Playstation.Proofs.Dma.Interrupt
import Playstation.Proofs.Cpu.Acknowledge
import Playstation.Proofs.Bus.Operation
import Playstation.Proofs.Dma.Activity
import Playstation.Proofs.Dma.Flags
import Playstation.Proofs.Dma.OrderingTable
import Playstation.Proofs.Gpu.Framing
import Playstation.Proofs.Gpu.Image
import Playstation.Proofs.Bus.Refusal
import Playstation.Proofs.Segment
import Playstation.Proofs.Bus.MainMemory
import Playstation.Proofs.Field
import Playstation.Proofs.FieldLaws
import Playstation.Proofs.Gpu.Registers
import Playstation.Proofs.Gpu.Status
import Playstation.Proofs.Gpu.Ports
import Playstation.Proofs.Gpu.Reset
import Playstation.Proofs.Gpu.Latest
import Playstation.Proofs.Dma.Block
import Playstation.Proofs.Cpu.LoadWidth
import Playstation.Proofs.WordPart
import Playstation.Proofs.Dma.ChannelRegister
import Playstation.Proofs.Dma.PartWrite
import Playstation.Proofs.Bus.PartStore
import Playstation.Proofs.WordEnd
import Playstation.Proofs.Bus.Frame
import Playstation.Proofs.Bus.Peek
import Playstation.Proofs.Cpu.Alignment
import Playstation.Proofs.Cpu.AfterFault
import Playstation.Proofs.Cpu.MisalignedWord
import Playstation.Proofs.Instruction.Assembly
import Playstation.Proofs.Cpu.AssemblyText
import Playstation.Proofs.Dma.TableControl
import Playstation.Proofs.Dma.Operation
import Playstation.Proofs.Cpu.ControlFlow
import Playstation.Proofs.Dma.TableTransfer
import Playstation.Proofs.Gpu.ImageCopy
import Playstation.Proofs.Gpu.ImageLoad
import Playstation.Proofs.Gpu.ImageFill
import Playstation.Proofs.Gpu.ReadOut
import Playstation.Proofs.Gpu.Answer
import Playstation.Proofs.Bus.KeptRegister
import Playstation.Proofs.Bus.StoreWidth
import Playstation.Proofs.Dma.RegisterField
import Playstation.Proofs.Dma.ReadBack
import Playstation.Proofs.Cpu.ProductQuotient
import Playstation.Proofs.Cpu.Overflow
import Playstation.Proofs.Cop0.ModeStack
import Playstation.Proofs.Cpu.Coprocessor
import Playstation.Proofs.Spu
import Playstation.Proofs.Session.Outcome
import Playstation.Proofs.FieldLaws
