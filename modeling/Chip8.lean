import Chip8.Main
import Chip8.Proofs.Addresses
import Chip8.Proofs.CallStack
import Chip8.Proofs.KeyWait
import Chip8.Proofs.RunLoop
import Chip8.Proofs.InstructionSet
import Chip8.Proofs.Timers
import Chip8.Proofs.Checked.Cycle
import Chip8.Proofs.Atomicity
import Chip8.Proofs.Painting
import Chip8.Proofs.QueuedCommands
import Chip8.Proofs.Session.Turns
import Chip8.Proofs.Session.History
import Chip8.Proofs.Session.Paused
import Chip8.Proofs.Session.Fairness
import Chip8.Proofs.Session.Steering
import Chip8.Proofs.Footprint
import Chip8.Proofs.Drawing
import Chip8.Proofs.Rendering
import Chip8.Proofs.Session.LastFrame
import Chip8.Proofs.Arithmetic
import Chip8.Proofs.Grammar
import Chip8.Proofs.Loading
import Chip8.Proofs.Triggers
import Chip8.Proofs.Rate
import Chip8.Proofs.RegisterTransfer
import Chip8.Proofs.DrawingOrder
import Chip8.Proofs.Text.Bytes
import Chip8.Proofs.Screen
import Chip8.Proofs.DecimalDigits
import Chip8.Proofs.Text.Numerals
import Chip8.Proofs.Text.Quoting
import Chip8.Proofs.Dump
import Chip8.Proofs.Disassembly
import Chip8.Proofs.Log
import Chip8.Proofs.Trace
import Chip8.Proofs.Countdown
import Chip8.Proofs.DecodingOrder
