import ModuleGraph.Build
import ModuleGraph.Cache
import ModuleGraph.Cache.Key
import ModuleGraph.CharSet
import ModuleGraph.Command
import ModuleGraph.Config
import ModuleGraph.Content
import ModuleGraph.Error
import ModuleGraph.FileTable
import ModuleGraph.FileTable.Probe
import ModuleGraph.Hook.Basic
import ModuleGraph.Hook.Chain
import ModuleGraph.Hook.External
import ModuleGraph.Hook.Remote
import ModuleGraph.Hook.Scripted
import ModuleGraph.Hook.Virtual
import ModuleGraph.Import
import ModuleGraph.ImportMap.Basic
import ModuleGraph.ImportMap.Document
import ModuleGraph.ImportMap.Resolve
import ModuleGraph.ImportScan
import ModuleGraph.ImportScan.Comments
import ModuleGraph.Json.Basic
import ModuleGraph.Json.Double
import ModuleGraph.Json.Fault
import ModuleGraph.Json.Field
import ModuleGraph.Json.Numeral
import ModuleGraph.Json.Reader
import ModuleGraph.Main
import ModuleGraph.PackageName
import ModuleGraph.Path
import ModuleGraph.Pattern.Basic
import ModuleGraph.Pattern.Class
import ModuleGraph.Pattern.Error
import ModuleGraph.Pattern.Escape
import ModuleGraph.Pattern.Match
import ModuleGraph.Pattern.Parse
import ModuleGraph.Pattern.Size
import ModuleGraph.Project
import ModuleGraph.Report
import ModuleGraph.Text
import ModuleGraph.Toolchain
import ModuleGraph.Unicode.Alphabetic
import ModuleGraph.Unicode.CombiningClass
import ModuleGraph.Unicode.Composition
import ModuleGraph.Unicode.Direction
import ModuleGraph.Unicode.DomainChars
import ModuleGraph.Unicode.Hidden
import ModuleGraph.Unicode.Joining
import ModuleGraph.Unicode.Mark
import ModuleGraph.Unicode.Numeric
import ModuleGraph.Unicode.Replacement
import ModuleGraph.Unicode.Replacement.Ideographs
import ModuleGraph.Unicode.Replacement.Letters
import ModuleGraph.Unicode.Replacement.Sequences
import ModuleGraph.Unicode.WhiteSpace
import ModuleGraph.Url.Basic
import ModuleGraph.Url.Host
import ModuleGraph.Url.Label
import ModuleGraph.Url.Parse
import ModuleGraph.Url.Percent
import ModuleGraph.Url.Punycode
import ModuleGraph.Url.Segments
import ModuleGraph.Workspace
import ModuleGraph.Proofs.ImportMap.Entries
import ModuleGraph.Proofs.ImportMap.Forms
import ModuleGraph.Proofs.ImportMap.Order
import ModuleGraph.Proofs.ImportMap.Rule
import ModuleGraph.Proofs.Firsts
import ModuleGraph.Proofs.Graph
import ModuleGraph.Proofs.Build.Course
import ModuleGraph.Proofs.Build.Gain
import ModuleGraph.Proofs.Build.Found
import ModuleGraph.Proofs.Build.Failures
import ModuleGraph.Proofs.Build.Account
import ModuleGraph.Proofs.Hook.Agreement
import ModuleGraph.Proofs.Hook.Functional
import ModuleGraph.Proofs.Build.BreadthFirst
import ModuleGraph.Proofs.Path
import ModuleGraph.Proofs.Text.ByteOrder
import ModuleGraph.Proofs.FileTable
import ModuleGraph.Proofs.Hook.Offer
import ModuleGraph.Proofs.Build.Supply
import ModuleGraph.Proofs.Build.Closed
import ModuleGraph.Proofs.Project
import ModuleGraph.Proofs.FileTable.History
import ModuleGraph.Proofs.FileTable.Probe
import ModuleGraph.Proofs.ImportMap.Reordering
import ModuleGraph.Proofs.ImportMap.Reading
import ModuleGraph.Proofs.ImportMap.Canonical
import ModuleGraph.Proofs.ImportMap.Target
import ModuleGraph.Proofs.Workspace.Containment
import ModuleGraph.Proofs.Workspace.Identity
import ModuleGraph.Proofs.Workspace.Importer
import ModuleGraph.Proofs.Cache
import ModuleGraph.Proofs.Cache.Key
import ModuleGraph.Proofs.Cache.Recency
import ModuleGraph.Proofs.Hook.Remote
import ModuleGraph.Proofs.Hook.Virtual
import ModuleGraph.Proofs.ImportScan
import ModuleGraph.Proofs.Workspace.Form
import ModuleGraph.Proofs.Build.Specifiers
import ModuleGraph.Proofs.Command
import ModuleGraph.Proofs.Hook.Invariant
import ModuleGraph.Proofs.Hook.Remote.Fetches
import ModuleGraph.Proofs.Hook.Remote.Spelling
import ModuleGraph.Proofs.Path.Canonical
import ModuleGraph.Proofs.Path.Parts
import ModuleGraph.Proofs.Path.Walk
import ModuleGraph.Proofs.ImportScan.Form
import ModuleGraph.Proofs.ImportScan.Occurrences
import ModuleGraph.Proofs.ImportScan.Statement
import ModuleGraph.Proofs.ImportScan.Marks
import ModuleGraph.Proofs.ImportScan.Comments
import ModuleGraph.Proofs.ImportScan.Script
