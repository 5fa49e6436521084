import VisualNovel.Assets
import VisualNovel.Assoc
import VisualNovel.Config
import VisualNovel.Cursor
import VisualNovel.Digest.Md5
import VisualNovel.Directive
import VisualNovel.Engine
import VisualNovel.Instruction
import VisualNovel.Interpreter
import VisualNovel.Json.Decode
import VisualNovel.Json.Magnitude
import VisualNovel.Json.Printer
import VisualNovel.Json.Reader
import VisualNovel.Json.Value
import VisualNovel.Log
import VisualNovel.Main
import VisualNovel.Notification
import VisualNovel.SaveSlots
import VisualNovel.SaveState
import VisualNovel.Screenplay.Basic
import VisualNovel.Screenplay.Report
import VisualNovel.Screenplay.Script
import VisualNovel.Speech
import VisualNovel.Stage
import VisualNovel.Store.Basic
import VisualNovel.Store.Disk
import VisualNovel.Store.FileSystem
import VisualNovel.Store.Memory
import VisualNovel.Terminal.Input
import VisualNovel.Terminal.Player
import VisualNovel.Terminal.Program
import VisualNovel.Terminal.View
import VisualNovel.Text.Blank
import VisualNovel.Text.Capital
import VisualNovel.Text.Numeral
import VisualNovel.Text.Offset
import VisualNovel.Text.Quoted
import VisualNovel.Text.Visible
import VisualNovel.TextPool
import VisualNovel.Voice
import VisualNovel.Proofs.Graph
import VisualNovel.Proofs.Walk
import VisualNovel.Proofs.Invariant
import VisualNovel.Proofs.Itinerary
import VisualNovel.Proofs.Resume
import VisualNovel.Proofs.Playing
import VisualNovel.Proofs.Screen
import VisualNovel.Proofs.Broadcast
import VisualNovel.Proofs.Delivery
import VisualNovel.Proofs.Results
import VisualNovel.Proofs.Voices
import VisualNovel.Proofs.Forgetting
import VisualNovel.Proofs.Rejections
import VisualNovel.Proofs.Choices
import VisualNovel.Proofs.Capture
import VisualNovel.Proofs.Replay
import VisualNovel.Proofs.JsonText
import VisualNovel.Proofs.Slots
import VisualNovel.Proofs.Files
import VisualNovel.Proofs.Folder
import VisualNovel.Proofs.Ending
import VisualNovel.Proofs.Session
import VisualNovel.Proofs.Failures
import VisualNovel.Proofs.Budget
import VisualNovel.Proofs.Idling
import VisualNovel.Proofs.Fingerprint
import VisualNovel.Proofs.Branching
import VisualNovel.Proofs.Messages
import VisualNovel.Proofs.Attribution
import VisualNovel.Proofs.Tokens
import VisualNovel.Proofs.Validation
import VisualNovel.Proofs.Cues
import VisualNovel.Proofs.Channels
import VisualNovel.Proofs.Degradation
import VisualNovel.Proofs.VoiceFiles
