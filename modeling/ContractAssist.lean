import ContractAssist.Address
import ContractAssist.Build.Stamp
import ContractAssist.FileTree.Listing
import ContractAssist.Main
import ContractAssist.Prompt.Session
import ContractAssist.Proofs.Prompt.Retry
import ContractAssist.Proofs.Run.Conversation
import ContractAssist.Proofs.Run.Delivery
import ContractAssist.Proofs.Run.Wiring
import ContractAssist.Proofs.Run.Secrecy
import ContractAssist.Proofs.Json.Grammar
import ContractAssist.Proofs.Json.Scanner
import ContractAssist.Proofs.Json.Value
import ContractAssist.Proofs.Json.Numeral
import ContractAssist.Proofs.Lint.Field
import ContractAssist.Proofs.Lint.Format
import ContractAssist.Proofs.Lint.Loss
import ContractAssist.Proofs.Job.Deploy
import ContractAssist.Proofs.Settings.Establish
import ContractAssist.Proofs.Stream.Channel
import ContractAssist.Proofs.Prompt.LineEnd
import ContractAssist.Proofs.Prompt.Passthrough
import ContractAssist.Proofs.Prompt.Deadline
import ContractAssist.Proofs.Prompt.Layer
import ContractAssist.Proofs.Prompt.Reply
import ContractAssist.Proofs.Json.Printer
import ContractAssist.Proofs.Lint.Encoding
import ContractAssist.Proofs.Job.Lint
import ContractAssist.Proofs.Run.Offset
import ContractAssist.Proofs.Prompt.Tail
import ContractAssist.Proofs.Duration
import ContractAssist.Proofs.Text.LowerCase
import ContractAssist.Prompt.Casing
import ContractAssist.Proofs.Prompt.Casing
import ContractAssist.CommandLine.Writing
import ContractAssist.Proofs.CommandLine.Word
import ContractAssist.Proofs.CommandLine.Request
import ContractAssist.Proofs.Invocation
import ContractAssist.Proofs.Terminal.Dialog
