import Georeference.Header.Recording
import Georeference.Main
import Georeference.Proofs.CommandLine.Batches
import Georeference.Proofs.CommandLine.Reports
import Georeference.Proofs.ControlPoint.LineEnds
import Georeference.Proofs.ControlPoint.Samples
import Georeference.Proofs.Crs.AreaOfUse
import Georeference.Proofs.Crs.Recognition
import Georeference.Proofs.Definition.Faults
import Georeference.Proofs.Definition.Queries
import Georeference.Proofs.Header.CodeForm
import Georeference.Proofs.Header.Refusals
import Georeference.Proofs.Header.RegistryMiss
import Georeference.Proofs.Header.Reparse
import Georeference.Proofs.Header.ZoneNumber
import Georeference.Proofs.Json.Zones
import Georeference.Proofs.Registry.CodeNumbers
import Georeference.Proofs.Report.Text
import Georeference.Proofs.Template.Locality
