import StudioMigration.Catalogue.DataFile
import StudioMigration.Launcher.About
import StudioMigration.Launcher.Button
import StudioMigration.Main
import StudioMigration.Proofs.Analysis.AfterTool
import StudioMigration.Proofs.Analysis.CompletedRun
import StudioMigration.Proofs.Analysis.Detection
import StudioMigration.Proofs.Analysis.FindingOrder
import StudioMigration.Proofs.Analysis.KitFolder
import StudioMigration.Proofs.Analysis.Successor
import StudioMigration.Proofs.Conversion.Declarations
import StudioMigration.Proofs.Conversion.LineEnds
import StudioMigration.Proofs.Conversion.Members
import StudioMigration.Proofs.Journal.LinkRun
import StudioMigration.Proofs.Launcher.Worker
import StudioMigration.Proofs.Package.Expected
import StudioMigration.Proofs.Release.VersionOrder
import StudioMigration.Proofs.Report.WellFormed
import StudioMigration.Release.Counter
