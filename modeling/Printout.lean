import Printout.Main
import Printout.Proofs.Call.Leftmost
import Printout.Proofs.Call.Segment
import Printout.Proofs.CommandLine.Kind
import Printout.Proofs.CommandLine.Request
import Printout.Proofs.Compile.Extension
import Printout.Proofs.Compile.Line
import Printout.Proofs.Compile.Reading
import Printout.Proofs.Compile.Renaming
import Printout.Proofs.Compile.RoundTrip
import Printout.Proofs.Files.Reading
import Printout.Proofs.Literal.Slice
import Printout.Proofs.Run.Account
import Printout.Proofs.Run.Placement
import Printout.Proofs.Run.Source
import Printout.Proofs.Settings.Fault
import Printout.Proofs.Text.Chunk
