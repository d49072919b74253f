import Tategaki.Json.Writer
import Tategaki.Main
import Tategaki.Proofs.Chapter.Document
import Tategaki.Proofs.Chapter.Indent
import Tategaki.Proofs.Chapter.Isolation
import Tategaki.Proofs.Command.Documents
import Tategaki.Proofs.Command.Paragraphs
import Tategaki.Proofs.Node
import Tategaki.Proofs.Number.Spelling
import Tategaki.Proofs.Rule.Calls
import Tategaki.Proofs.Rule.Directory
import Tategaki.Proofs.Rule.Fragments
import Tategaki.Proofs.Scanner.Descent
import Tategaki.Proofs.Scanner.Digits
import Tategaki.Proofs.Scanner.Frames
import Tategaki.Proofs.Scanner.Prose
import Tategaki.Proofs.Scanner.Reordered
import Tategaki.Proofs.Scanner.Safety
import Tategaki.Proofs.Scanner.Spared
import Tategaki.Proofs.Step.Check
import Tategaki.Proofs.Step.Splitting
import Tategaki.Proofs.Width
