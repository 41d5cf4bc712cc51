import LineShell.Machine.Schedule
import LineShell.Main
import LineShell.Pipeline.Reading
import LineShell.Repl.Transcript
import LineShell.Token.Written
import LineShell.Pipeline.Plan
import LineShell.Proofs.Flow.Keeping
import LineShell.Proofs.Handles.Accounts
import LineShell.Proofs.Handles.Starting
import LineShell.Proofs.Pipeline.Building
import LineShell.Proofs.Pipeline.Course
import LineShell.Proofs.Pipeline.Order
import LineShell.Proofs.Search.Finding
import LineShell.Proofs.Search.Launching
import LineShell.Proofs.Flow.Unfolding
import LineShell.Proofs.Repl.Conversation
import LineShell.Proofs.Repl.Conversing
import LineShell.Proofs.Repl.Sharing
import LineShell.Proofs.Waiting.Settling
import LineShell.Proofs.Streams.Carrying
import LineShell.Proofs.Streams.Composing
import LineShell.Proofs.Pipeline.Faults
import LineShell.Proofs.Pipeline.Joining
import LineShell.Proofs.Text.Decimal
import LineShell.Pipeline.Phrase
import LineShell.Proofs.Token.Writing
import LineShell.Proofs.Token.Expanding
import LineShell.Proofs.Waiting.Consistency
import LineShell.Proofs.Waiting.Remembering
import LineShell.Proofs.Pipeline.Phrases
import LineShell.Proofs.Pipeline.Dangling
import LineShell.Proofs.Pipeline.Dropping
import LineShell.Proofs.Search.Kinds
import LineShell.Proofs.Search.Precedence
import LineShell.Proofs.Token.Spacing
import LineShell.Proofs.Repl.Terminators
import LineShell.Proofs.Repl.Retelling
import LineShell.Proofs.Repl.Diagnosing
import LineShell.Proofs.Repl.Prompting
import LineShell.Proofs.Repl.Variables
import LineShell.Proofs.Search.Missing
