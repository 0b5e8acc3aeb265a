import Keyring.Config.File
import Keyring.Config.Json
import Keyring.Diagnostics
import Keyring.Log.Line
import Keyring.Queue.Recorder
import Keyring.Queue.Schedule
import Keyring.Proofs.Sequence
import Keyring.Proofs.StoreRuns
import Keyring.Proofs.History
import Keyring.Proofs.Isolation
import Keyring.Proofs.SharedRuns
import Keyring.Proofs.SharedHandles
import Keyring.Proofs.QueueMoves
import Keyring.Proofs.QueueOrder
import Keyring.Proofs.QueueWork
import Keyring.Proofs.CallOrder
import Keyring.Proofs.Audit
import Keyring.Proofs.Threads
import Keyring.Proofs.Handles
import Keyring.Proofs.Barrier
import Keyring.Proofs.QueuedCalls
import Keyring.Proofs.QueueViews
import Keyring.Proofs.Secrecy
import Keyring.Proofs.ShareKeys
import Keyring.Proofs.Flags
import Keyring.Proofs.DigitTexts
import Keyring.Proofs.QuotedText
import Keyring.Proofs.Legibility
import Keyring.Proofs.TomlText
import Keyring.Proofs.TomlRoundTrip
import Keyring.Proofs.Capacity
import Keyring.Proofs.Answers
import Keyring.Proofs.Closing
import Keyring.Proofs.WorkerReports
import Keyring.Proofs.TomlSettings
import Keyring.Proofs.Loading
import Keyring.Proofs.JsonNumbers
import Keyring.Proofs.JsonLexemes
import Keyring.Proofs.JsonValues
import Keyring.Proofs.JsonConfig
import Keyring.Proofs.JsonRoundTrip
