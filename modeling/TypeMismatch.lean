import TypeMismatch.Files.Tree
import TypeMismatch.Main
import TypeMismatch.Proofs.Command.Pair
import TypeMismatch.Proofs.Command.Run
import TypeMismatch.Proofs.Log.Calls
import TypeMismatch.Proofs.Name.Compatible
import TypeMismatch.Proofs.Name.Depth
import TypeMismatch.Proofs.Name.Reread
import TypeMismatch.Proofs.Name.Span
import TypeMismatch.Proofs.Name.Tidy
import TypeMismatch.Proofs.Outline
import TypeMismatch.Proofs.Report.Reading
import TypeMismatch.Proofs.Settings.Flag
import TypeMismatch.Proofs.Shortening
import TypeMismatch.Proofs.Value.Merge
import TypeMismatch.Session
