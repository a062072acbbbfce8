import Restyle.Main
import Restyle.Matching.Keyboard
import Restyle.Proofs.Color.Triple
import Restyle.Proofs.Numeric.Nearest
import Restyle.Proofs.Color.Stored
import Restyle.Proofs.Change.Outcome
import Restyle.Proofs.Target.Styled
import Restyle.Proofs.Interpreter.Values
import Restyle.Proofs.Interpreter.Assignment
import Restyle.Proofs.Interpreter.Atomic
import Restyle.Proofs.Interpreter.ChangeLog
import Restyle.Proofs.Assoc
import Restyle.Proofs.Interpreter.TokenKinds
import Restyle.Proofs.Document.Merge
import Restyle.Proofs.Interpreter.Patch
import Restyle.Proofs.Interpreter.Mirrored
import Restyle.Proofs.Console.Mirror
import Restyle.Proofs.Sync.Blocks
import Restyle.Proofs.Interpreter.Interrupted
import Restyle.Proofs.Interpreter.Foregrounds
import Restyle.Proofs.Text.Rows
import Restyle.Proofs.Text.Words
import Restyle.Proofs.Numeric.InRange
import Restyle.Proofs.Color.Format
import Restyle.Proofs.Command.Captured
import Restyle.Proofs.Interpreter.Answered
import Restyle.Proofs.Document.Paths
import Restyle.Proofs.Sync.Files
import Restyle.Proofs.Sync.Timing
import Restyle.Proofs.Interpreter.Unseen
import Restyle.Proofs.Interpreter.Faults
import Restyle.Proofs.Checked.Matching
import Restyle.Proofs.Checked.Color
import Restyle.Proofs.Checked.Words
import Restyle.Proofs.Checked.Interpreter
import Restyle.Proofs.Command.Respelled
import Restyle.Proofs.Command.Phrasings
import Restyle.Proofs.Command.Named
import Restyle.Proofs.Matching.Edits
import Restyle.Proofs.Matching.Shortlist
import Restyle.Proofs.Interpreter.ModeNames
import Restyle.Proofs.Text.Settled
import Restyle.Proofs.Target.Guess
import Restyle.Proofs.Interpreter.Reported
import Restyle.Proofs.Interpreter.Replica
import Restyle.Proofs.Matching.EditScript
import Restyle.Proofs.Command.Recognised
import Restyle.Proofs.Interpreter.Selected
import Restyle.Proofs.Matching.BestMatch
import Restyle.Proofs.Interpreter.Tolerances
import Restyle.Proofs.Matching.Comparison
import Restyle.Proofs.Target.Spelled
import Restyle.Proofs.Interpreter.Absolute
import Restyle.Proofs.Color.Notations
import Restyle.Proofs.Color.HslPair
import Restyle.Proofs.Color.Bytes
import Restyle.Proofs.Interpreter.RawColors
import Restyle.Proofs.Interpreter.Projection
import Restyle.Proofs.Change.Steps
import Restyle.Proofs.Change.Contrast
import Restyle.Proofs.Change.Hue
import Restyle.Proofs.Document.Laws
import Restyle.Proofs.Target.Determiners
import Restyle.Proofs.Interpreter.Fallbacks
import Restyle.Proofs.Sync.Announced
import Restyle.Proofs.Store.Delivered
import Restyle.Proofs.Matching.Beginnings
import Restyle.Proofs.Matching.Similarity
import Restyle.Proofs.Matching.Suggestions
import Restyle.Proofs.Matching.Runs
import Restyle.Proofs.Text.Squeezed
import Restyle.Proofs.Matching.Possessives
import Restyle.Proofs.Matching.WordByWord
import Restyle.Proofs.Matching.NormalForm
import Restyle.Proofs.Matching.Slips
import Restyle.Proofs.Matching.SoundCodes
import Restyle.Proofs.Command.Cuts
import Restyle.Proofs.Settings.Reported
