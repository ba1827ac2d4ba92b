import SparcEmu.RunLoop
import SparcEmu.Privileged
import SparcEmu.Precise
import SparcEmu.Throws
import SparcEmu.Protection
import SparcEmu.TrapReturn
import SparcEmu.Atomicity
import SparcEmu.L0Coherence
import SparcEmu.IrqSafety
import SparcEmu.Breakpoint
import SparcEmu.Windows
import SparcEmu.BusErrors
import SparcEmu.UserIsolation
import SparcEmu.Gptimer
import SparcEmu.Transparency
import SparcEmu.FaultReport
import SparcEmu.AudioPause
import SparcEmu.AudioSafety
import SparcEmu.GdbRestore
import SparcEmu.GdbReplies
import SparcEmu.ElfLoading
import SparcEmu.AddSub
import SparcEmu.Division
import SparcEmu.PageWalk
import SparcEmu.ControlInvariants
import SparcEmu.FpuIndices
import SparcEmu.IrqPointers
import SparcEmu.BankLookup
import SparcEmu.LockedRom
import SparcEmu.TaggedArith
import SparcEmu.Shifts
import SparcEmu.MultiplyStep
import SparcEmu.DelayedTransfer
import SparcEmu.NoFault
import SparcEmu.RamBank
import SparcEmu.GdbTransfer
import SparcEmu.GdbInsertion
import SparcEmu.GdbPackets
import SparcEmu.GdbThreads
import SparcEmu.AudioStatus
import SparcEmu.AudioProgress
import SparcEmu.PciConfig
import SparcEmu.FrameBuffer
import SparcEmu.UartFifo
import SparcEmu.Keyboard
import SparcEmu.BusClock
import SparcEmu.TimerInterrupts
import SparcEmu.PowerDown
import SparcEmu.IrqActive
import SparcEmu.Disassembler
import SparcEmu.TlbSoundness
import SparcEmu.Cmdline
import SparcEmu.Residue
