import ImportPath.Path.Basic
import ImportPath.Path.Lexical
import ImportPath.Specifier
import ImportPath.Version
import ImportPath.Json.Value
import ImportPath.Json.Error
import ImportPath.Json.Write
import ImportPath.Decimal.Shortest
import ImportPath.Decimal.Scale
import ImportPath.Json.Read
import ImportPath.Regex.Syntax
import ImportPath.Regex.Error
import ImportPath.Regex.Parse
import ImportPath.Regex.Program
import ImportPath.Regex.Search
import ImportPath.Alias.Template
import ImportPath.Alias.Entry
import ImportPath.FileSystem.Basic
import ImportPath.FileSystem.Tree
import ImportPath.FileSystem.Marker
import ImportPath.Locate.Node
import ImportPath.Glob.Pattern
import ImportPath.Glob.Walk
import ImportPath.Config.Scope
import ImportPath.Error
import ImportPath.Config.Raw
import ImportPath.Config.FromValue
import ImportPath.Config.FromText
import ImportPath.Config.Layer
import ImportPath.Settings
import ImportPath.Resolution
import ImportPath.Resolution.AnyTable
import ImportPath.Json.Pretty
import ImportPath.Report
import ImportPath.Command
import ImportPath.Main
import ImportPath.Text.CodeRanges
import ImportPath.Text.Alphabetic
import ImportPath.Text.Numeric
import ImportPath.Text.GraphemeExtend
import ImportPath.Text.Printable
import ImportPath.Text.Bytes
import ImportPath.Proofs.Strategies
import ImportPath.Proofs.Absolute
import ImportPath.Proofs.Warnings
import ImportPath.Proofs.PathText
import ImportPath.Proofs.RelativePath
import ImportPath.Proofs.LocatedFiles
import ImportPath.Proofs.Landing
import ImportPath.Proofs.Relocation
import ImportPath.Proofs.AliasTable
import ImportPath.Proofs.WorkingDirectory
import ImportPath.Proofs.ByteCuts
import ImportPath.Proofs.NormalForm
import ImportPath.Proofs.RelativeRoundTrip
import ImportPath.Proofs.TemplateScan
import ImportPath.Proofs.KeyPattern
import ImportPath.Proofs.ProgramSize
import ImportPath.Proofs.KeyProgram
import ImportPath.Proofs.KeySearch
import ImportPath.Proofs.PlainKeys
import ImportPath.Proofs.OverrideLayers
import ImportPath.Proofs.ThirdPartyBoundary
import ImportPath.Proofs.NearestMarker
import ImportPath.Proofs.PackageLookup
import ImportPath.Proofs.ConfigFaults
import ImportPath.Proofs.PackageName
import ImportPath.Proofs.FileNameRewrite
