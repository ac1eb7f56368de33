import Colloquy.Main
import Colloquy.Service
import Colloquy.Proofs.Transparency
import Colloquy.Proofs.Directives
import Colloquy.Proofs.Ownership
import Colloquy.Proofs.Unresolved
import Colloquy.Proofs.Errand
import Colloquy.Proofs.OneTurn
import Colloquy.Proofs.Isolation
import Colloquy.Proofs.Visit
import Colloquy.Proofs.Replay
import Colloquy.Proofs.Prompts
import Colloquy.Proofs.Waiting
import Colloquy.Proofs.Lost
import Colloquy.Proofs.Wording
import Colloquy.Proofs.FrontEnds
import Colloquy.Proofs.Again
import Colloquy.Proofs.Indifference
import Colloquy.Proofs.Lines
import Colloquy.Proofs.Retelling
import Colloquy.Proofs.Ladder
import Colloquy.Proofs.Opening
import Colloquy.Proofs.Steady
import Colloquy.Proofs.Streaming
import Colloquy.Proofs.Speechless
import Colloquy.Proofs.WrittenForm
import Colloquy.Proofs.LastTopic
import Colloquy.Proofs.ReportLine
import Colloquy.Proofs.SaidAgain
import Colloquy.Proofs.Collapse
import Colloquy.Proofs.Tally
