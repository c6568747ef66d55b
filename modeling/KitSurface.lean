import KitSurface.BuildScript
import KitSurface.Config.Basic
import KitSurface.Generator
import KitSurface.Json.Basic
import KitSurface.Main
import KitSurface.Proofs.BuildScript
import KitSurface.Proofs.CommandLine.Surface
import KitSurface.Proofs.Config.Candidates
import KitSurface.Proofs.Config.Check
import KitSurface.Proofs.Config.Consistency
import KitSurface.Proofs.Config.Definitions
import KitSurface.Proofs.Config.Include
import KitSurface.Proofs.Config.Selection
import KitSurface.Proofs.Context
import KitSurface.Proofs.DriverModel
import KitSurface.Proofs.FileTree.FullPath
import KitSurface.Proofs.Header.Definition
import KitSurface.Proofs.Header.Lexeme
import KitSurface.Proofs.Header.Member
import KitSurface.Proofs.Header.Occurrence
import KitSurface.Proofs.Header.Rendered
import KitSurface.Proofs.Header.Stripped
import KitSurface.Proofs.Header.Typedef
import KitSurface.Proofs.IncludeOrder
import KitSurface.Proofs.Kit.SdkName
import KitSurface.Proofs.Kit.VersionSearch
import KitSurface.Proofs.Layout.Alignment
import KitSurface.Proofs.Layout.Growth
import KitSurface.Proofs.Layout.Packing
import KitSurface.Proofs.Layout.Placement
import KitSurface.Proofs.Layout.Union
import KitSurface.Proofs.Serialized.ForeignKey
import KitSurface.Proofs.Serialized.OptionsTable
import KitSurface.Proofs.Serialized.Record
import KitSurface.Proofs.Serialized.RoundTrip
import KitSurface.Proofs.Settings
import KitSurface.Proofs.Surface.Change
import KitSurface.Proofs.Surface.Coverage
import KitSurface.Proofs.Surface.Listing
import KitSurface.Proofs.Surface.Markers
import KitSurface.Proofs.Surface.Options
import KitSurface.Proofs.Text.Numeral
import KitSurface.Proofs.Version
import KitSurface.Proofs.Workspace.EmptySection
