import Scaffold.Main
import Scaffold.Template.Print
import Scaffold.Proofs.PathSyntax
import Scaffold.Proofs.TagSyntax
import Scaffold.Proofs.Grammar
import Scaffold.Proofs.Parsing
import Scaffold.Proofs.Lexing
import Scaffold.Proofs.Fields
import Scaffold.Proofs.WellFormed
import Scaffold.Proofs.Printing
import Scaffold.Proofs.HelperSets
import Scaffold.Proofs.Visits
import Scaffold.Proofs.Rendering
import Scaffold.Proofs.StandardHelpers
import Scaffold.Proofs.Outcomes
import Scaffold.Proofs.Assembling
import Scaffold.Proofs.Shapes
import Scaffold.Proofs.Checking
import Scaffold.Proofs.ContextShape
import Scaffold.Proofs.BundledTemplates
import Scaffold.Proofs.BundledLibrary
import Scaffold.Proofs.FreeVariables
import Scaffold.Proofs.Selection
import Scaffold.Proofs.Unrolling
import Scaffold.Proofs.DeclaredErrors
import Scaffold.Proofs.Layout
import Scaffold.Proofs.Leniency
import Scaffold.Proofs.Moving
import Scaffold.Proofs.Concatenation
import Scaffold.Proofs.SafePaths
import Scaffold.Proofs.FileTrees
import Scaffold.Proofs.Writing
import Scaffold.Proofs.FreshOutput
import Scaffold.Proofs.Containment
import Scaffold.Proofs.Ascii
import Scaffold.Proofs.WordKinds
import Scaffold.Proofs.Humps
import Scaffold.Proofs.Linking
import Scaffold.Proofs.Schedules
import Scaffold.Proofs.Positions
import Scaffold.Proofs.Partition
import Scaffold.Proofs.JsonReading
import Scaffold.Proofs.MalformedDecisions
import Scaffold.Proofs.PackageManifest
import Scaffold.Proofs.LegibleLibraries
import Scaffold.Proofs.Sessions
import Scaffold.Proofs.ExitCodes
import Scaffold.Proofs.Spellings
import Scaffold.Proofs.Respelling
import Scaffold.Proofs.Freezing
import Scaffold.Proofs.FirstFlaws
import Scaffold.Proofs.Comments
import Scaffold.Proofs.LibraryManifests
import Scaffold.Proofs.Blanks
import Scaffold.Proofs.TagWords
import Scaffold.Proofs.Spacing
import Scaffold.Proofs.Inverses
import Scaffold.Proofs.EntityModels
import Scaffold.Proofs.ComponentNames
import Scaffold.Proofs.SchemaKeys
import Scaffold.Proofs.WordRules
import Scaffold.Proofs.ModelReferences
import Scaffold.Proofs.Rounding
import Scaffold.Proofs.WrittenNumbers
import Scaffold.Proofs.SavedFiles
import Scaffold.Proofs.SavedSettings
