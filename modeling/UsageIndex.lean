import UsageIndex.Command.Arguments
import UsageIndex.Command.Request
import UsageIndex.Command.Run
import UsageIndex.DocSet
import UsageIndex.Document
import UsageIndex.Document.Json
import UsageIndex.Error
import UsageIndex.Json.Assembly
import UsageIndex.Json.Basic
import UsageIndex.Json.Number
import UsageIndex.Json.Printer
import UsageIndex.Json.Spelling
import UsageIndex.Json.Token
import UsageIndex.Listing
import UsageIndex.Main
import UsageIndex.Options
import UsageIndex.Options.Json
import UsageIndex.Ordered.Flips
import UsageIndex.Ordered.Map
import UsageIndex.Ordered.Set
import UsageIndex.Packages
import UsageIndex.Pattern.Bracket
import UsageIndex.Pattern.CharSet
import UsageIndex.Pattern.Compiled
import UsageIndex.Pattern.Escape
import UsageIndex.Pattern.Expr
import UsageIndex.Pattern.Form
import UsageIndex.Pattern.Literal
import UsageIndex.Pattern.Parse
import UsageIndex.Pattern.Runs
import UsageIndex.Pattern.Search
import UsageIndex.Pattern.Search.Lemmas
import UsageIndex.Pattern.Size
import UsageIndex.Pattern.Token
import UsageIndex.Proofs.Composition
import UsageIndex.Proofs.Dictionary
import UsageIndex.Proofs.EncodedReferences
import UsageIndex.Proofs.EscapedNames
import UsageIndex.Proofs.Faults
import UsageIndex.Proofs.Globs
import UsageIndex.Proofs.IllFormedPatterns
import UsageIndex.Proofs.Inspection
import UsageIndex.Proofs.KindLists
import UsageIndex.Proofs.KindUnions
import UsageIndex.Proofs.LowerCase
import UsageIndex.Proofs.Memory
import UsageIndex.Proofs.PackageFilters
import UsageIndex.Proofs.PackageLevels
import UsageIndex.Proofs.PackageNames
import UsageIndex.Proofs.PackagePatterns
import UsageIndex.Proofs.PackageUsages
import UsageIndex.Proofs.Pattern.Appended
import UsageIndex.Proofs.Pattern.Closing
import UsageIndex.Proofs.Pattern.Folding
import UsageIndex.Proofs.Pattern.Joined
import UsageIndex.Proofs.Pattern.Lead
import UsageIndex.Proofs.Pattern.Meaning
import UsageIndex.Proofs.Pattern.Reading
import UsageIndex.Proofs.Pattern.Room
import UsageIndex.Proofs.PatternQueries
import UsageIndex.Proofs.Postings
import UsageIndex.Proofs.Preconditions
import UsageIndex.Proofs.QueryEquality
import UsageIndex.Proofs.QueryTree
import UsageIndex.Proofs.RecordedReferences
import UsageIndex.Proofs.Recording
import UsageIndex.Proofs.ReferencePatterns
import UsageIndex.Proofs.RegexpQueries
import UsageIndex.Proofs.Satisfaction
import UsageIndex.Proofs.Scopes
import UsageIndex.Proofs.SearchReports
import UsageIndex.Proofs.SetBuilders
import UsageIndex.Proofs.SetMembers
import UsageIndex.Proofs.SetRecipes
import UsageIndex.Proofs.Slots
import UsageIndex.Proofs.UsageQueries
import UsageIndex.Proofs.Usages
import UsageIndex.Proofs.Walks
import UsageIndex.Proofs.WholeTexts
import UsageIndex.Proofs.WildcardQueries
import UsageIndex.Proofs.WrittenDocuments
import UsageIndex.Proofs.WrittenOptions
import UsageIndex.Proofs.WrittenValues
import UsageIndex.Query
import UsageIndex.Scope
import UsageIndex.Search
import UsageIndex.Segment
import UsageIndex.Segment.Faults
import UsageIndex.Session
import UsageIndex.Term
import UsageIndex.Term.Json
import UsageIndex.Text.Case
import UsageIndex.Text.Character
import UsageIndex.Text.Letter
import UsageIndex.Text.Quoted
import UsageIndex.Usage.Mask
