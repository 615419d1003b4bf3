import YangBind.Text.CharClass
import YangBind.Text.Blank
import YangBind.Text.Segment
import YangBind.Text.Printable
import YangBind.Text.Quoted
import YangBind.Text.Cased
import YangBind.Text.CaseMapping
import YangBind.Text.LetterCase
import YangBind.NameMap
import YangBind.SchemaPath
import YangBind.Schema.Entry
import YangBind.Schema.Tree
import YangBind.Schema.Ancestry
import YangBind.Schema.DataTree
import YangBind.Schema.PathExpr
import YangBind.Schema.Error
import YangBind.Schema.Draft
import YangBind.Schema.Building
import YangBind.Options
import YangBind.Error
import YangBind.Ir.Basic
import YangBind.Mapper.Traced
import YangBind.Mapper.Basic
import YangBind.Mapper.CamelCase
import YangBind.Directory.Basic
import YangBind.Directory.Index
import YangBind.Directory.NameClaims
import YangBind.Directory.MappedPath
import YangBind.Ir.DisplayName
import YangBind.Ir.Compile
import YangBind.Json.Value
import YangBind.Json.Schema
import YangBind.Json.Ir
import YangBind.Proofs.Text.LetterCase
import YangBind.Proofs.Text.Segment
import YangBind.Proofs.Text.Blank
import YangBind.Proofs.Schema.Forest
import YangBind.Proofs.Schema.DataLineage
import YangBind.Proofs.Schema.Visibility
import YangBind.Proofs.Directory.FieldPath
import YangBind.Proofs.Directory.KeyAlias
import YangBind.Proofs.Ir.Compilation
import YangBind.Proofs.Ir.DisplayName
import YangBind.Proofs.Ir.KeyName
import YangBind.Proofs.Ir.DistinctNames
import YangBind.Proofs.Schema.Registration
import YangBind.Proofs.Schema.PathIdentity
import YangBind.Proofs.Directory.PathModules
import YangBind.Proofs.Ir.Script
import YangBind.Proofs.Directory.PathOutcome
import YangBind.Proofs.Ir.Compilable
import YangBind.Proofs.Ir.Questions
import YangBind.Proofs.Ir.StatusFilter
import YangBind.Proofs.Schema.PathNames
import YangBind.Proofs.Schema.PathPredicates
import YangBind.Proofs.Schema.PlainPath
import YangBind.Proofs.Schema.Faults
import YangBind.Proofs.Schema.AbsolutePath
import YangBind.Proofs.Schema.ListKeys
import YangBind.Proofs.Mapper.Agreement
import YangBind.Proofs.Ir.Agreement
import YangBind.Proofs.Ir.ShadowSwitch
import YangBind.Proofs.Directory.PathMode
import YangBind.Proofs.Ir.PathMode
import YangBind.Proofs.Directory.Index
import YangBind.Proofs.Ir.Listing
import YangBind.Proofs.Ir.Parts
import YangBind.Proofs.Schema.DistinctPaths
import YangBind.Proofs.Directory.FieldDescent
import YangBind.Proofs.Schema.PathCompleteness
import YangBind.Proofs.Schema.PathLookup
import YangBind.Proofs.Schema.Refusals
import YangBind.Proofs.Ir.SkippedFields
import YangBind.Proofs.Schema.KeyLeaves
import YangBind.Proofs.Directory.Start
import YangBind.Proofs.Ir.CompiledFields
import YangBind.Proofs.Ir.Labels
import YangBind.Proofs.Ir.KeyCompleteness
import YangBind.Proofs.Mapper.ScalarType
import YangBind.Proofs.Ir.KeyType
import YangBind.Proofs.Directory.Uncompressed
import YangBind.Proofs.Ir.Uncompressed
import YangBind.Proofs.Ir.GreedyNames
import YangBind.Proofs.Ir.CountedNames
import YangBind.Proofs.Directory.FoldedKey
import YangBind.Proofs.Directory.DistinctPaths
import YangBind.Proofs.Directory.NameConflicts
import YangBind.Proofs.Schema.FirstFault
import YangBind.Proofs.Mapper.LeafrefChain
import YangBind.Proofs.Schema.JoinedPath
import YangBind.Proofs.Schema.ModulePath
import YangBind.Proofs.Schema.RootChain
import YangBind.Proofs.SchemaPath
import YangBind.Proofs.Mapper.CamelCaseName
import YangBind.Proofs.Schema.DataChild
import YangBind.Proofs.Json.Reordering
import YangBind.Proofs.Json.Record
import YangBind.Proofs.Json.RoundTrip
