import DmlReport.Main
import DmlReport.Proofs.Command.Reliable
import DmlReport.Proofs.Replay.Verdict
import DmlReport.Proofs.Storage.Atomic
import DmlReport.Proofs.Document.ReadBack
import DmlReport.Proofs.Replay.Transcript
import DmlReport.Proofs.Replay.Additive
import DmlReport.Proofs.Handbook.Links
import DmlReport.Proofs.Command.Explanation
import DmlReport.Proofs.Replay.Independence
import DmlReport.Proofs.Handbook.Enrichment
import DmlReport.Proofs.Diagnostic.Usable
import DmlReport.Proofs.Diagnostic.RoundTrip
import DmlReport.Proofs.Handbook.Layers
import DmlReport.Proofs.Citation.Printed
import DmlReport.Proofs.Dialect.Grammar
import DmlReport.Proofs.Settings.Accepted
import DmlReport.Proofs.Storage.Components
import DmlReport.Proofs.Command.Loading
import DmlReport.Proofs.Document.Indentation
import DmlReport.Proofs.Collection.History
import DmlReport.Proofs.Document.Consistency
