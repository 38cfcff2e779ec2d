import BeanMapper.Assignment.Basic
import BeanMapper.Assignment.Requirement
import BeanMapper.Assignment.Serialized
import BeanMapper.Conversion.Basic
import BeanMapper.Diagnostic
import BeanMapper.Distinct
import BeanMapper.Document
import BeanMapper.Generation.Bean
import BeanMapper.Generation.Container
import BeanMapper.Generation.Drafting
import BeanMapper.Generation.Generator
import BeanMapper.Generation.Method
import BeanMapper.Generation.Serialized
import BeanMapper.Generation.Source
import BeanMapper.Generation.Wrapping
import BeanMapper.Log.Filter
import BeanMapper.Mapper.Annotations
import BeanMapper.Mapper.Declaration
import BeanMapper.Mapper.Generated
import BeanMapper.Mapper.Serialized
import BeanMapper.Message
import BeanMapper.Method.Basic
import BeanMapper.Method.Candidate
import BeanMapper.Options.Layer
import BeanMapper.Options.Strategy
import BeanMapper.Proofs.Assignment.Classification
import BeanMapper.Proofs.Assignment.Exceptions
import BeanMapper.Proofs.Assignment.Imports
import BeanMapper.Proofs.Assignment.Parts
import BeanMapper.Proofs.Assignment.Steps
import BeanMapper.Proofs.Assignment.Visits
import BeanMapper.Proofs.Conversion.Finding
import BeanMapper.Proofs.Generation.Calls
import BeanMapper.Proofs.Generation.Coverage
import BeanMapper.Proofs.Generation.Explanation
import BeanMapper.Proofs.Generation.Guards
import BeanMapper.Proofs.Generation.Imports
import BeanMapper.Proofs.Generation.Layers
import BeanMapper.Proofs.Generation.LoopTypes
import BeanMapper.Proofs.Generation.LoopVariables
import BeanMapper.Proofs.Generation.Mappings
import BeanMapper.Proofs.Generation.NestedPaths
import BeanMapper.Proofs.Generation.Outcomes
import BeanMapper.Proofs.Generation.Paths
import BeanMapper.Proofs.Generation.PlainImports
import BeanMapper.Proofs.Generation.Renaming
import BeanMapper.Proofs.Generation.UnreadSources
import BeanMapper.Proofs.Generation.Unrequested
import BeanMapper.Proofs.Generation.Uses
import BeanMapper.Proofs.Log.Levels
import BeanMapper.Proofs.Options.Packages
import BeanMapper.Proofs.Options.Precedence
import BeanMapper.Proofs.Resolution.Calls
import BeanMapper.Proofs.Resolution.Chains
import BeanMapper.Proofs.Resolution.Factories
import BeanMapper.Proofs.Resolution.Order
import BeanMapper.Proofs.Resolution.Qualified
import BeanMapper.Proofs.Resolution.Typing
import BeanMapper.Proofs.Resolution.Unrequested
import BeanMapper.Proofs.Resolution.Ways
import BeanMapper.Proofs.Selection.Bindings
import BeanMapper.Proofs.Selection.Exact
import BeanMapper.Proofs.Selection.Inference
import BeanMapper.Proofs.Selection.Insertion
import BeanMapper.Proofs.Selection.Meaning
import BeanMapper.Proofs.Selection.Order
import BeanMapper.Proofs.Selection.Ranks
import BeanMapper.Proofs.Selection.Survivors
import BeanMapper.Proofs.Selection.Unboxed
import BeanMapper.Proofs.Settings.Suggestions
import BeanMapper.Proofs.Settings.Verbosity
import BeanMapper.Proofs.Simulation.Containers
import BeanMapper.Proofs.Simulation.Conversions
import BeanMapper.Proofs.Simulation.Defaults
import BeanMapper.Proofs.Simulation.Failures
import BeanMapper.Proofs.Simulation.Frames
import BeanMapper.Proofs.Simulation.NullFlow
import BeanMapper.Proofs.Simulation.NullSafety
import BeanMapper.Proofs.Simulation.NullSource
import BeanMapper.Proofs.Simulation.Numbers
import BeanMapper.Proofs.Simulation.Refilling
import BeanMapper.Proofs.Simulation.Runs
import BeanMapper.Proofs.Text.Blanks
import BeanMapper.Proofs.Text.Case
import BeanMapper.Proofs.Text.Edits
import BeanMapper.Proofs.Text.Literals
import BeanMapper.Proofs.Text.Numerals
import BeanMapper.Proofs.Text.Parts
import BeanMapper.Proofs.Text.Segments
import BeanMapper.Proofs.Type.Agreement
import BeanMapper.Proofs.Type.Assignability
import BeanMapper.Proofs.Type.Completions
import BeanMapper.Proofs.Type.Distance
import BeanMapper.Proofs.Type.Enumeration
import BeanMapper.Proofs.Type.Grammar
import BeanMapper.Proofs.Type.Inheritance
import BeanMapper.Proofs.Type.Origins
import BeanMapper.Proofs.Type.Reachability
import BeanMapper.Proofs.Type.Substitution
import BeanMapper.Proofs.Type.Transparency
import BeanMapper.Proofs.Type.Variables
import BeanMapper.Proofs.Type.Views
import BeanMapper.Proofs.Type.WrittenForm
import BeanMapper.Resolution.Resolver
import BeanMapper.Selection.Basic
import BeanMapper.Selection.Matching
import BeanMapper.Selection.Selector
import BeanMapper.Settings.Basic
import BeanMapper.Settings.Reading
import BeanMapper.Settings.Warning
import BeanMapper.Simulation.Evaluation
import BeanMapper.Simulation.Heap
import BeanMapper.Simulation.Run
import BeanMapper.Simulation.Writing
import BeanMapper.Text.Blank
import BeanMapper.Text.Case
import BeanMapper.Text.CaseTable
import BeanMapper.Text.Cut
import BeanMapper.Text.EditDistance
import BeanMapper.Text.Integer
import BeanMapper.Text.Letter
import BeanMapper.Text.LetterTable
import BeanMapper.Text.Quoted
import BeanMapper.Text.Shown
import BeanMapper.Text.ShownTable
import BeanMapper.Toml.Basic
import BeanMapper.Toml.Document
import BeanMapper.Toml.Reader
import BeanMapper.Toml.Tree
import BeanMapper.Type.Basic
import BeanMapper.Type.Catalog
import BeanMapper.Type.ClassDecl
import BeanMapper.Type.Hierarchy
import BeanMapper.Type.Platform
import BeanMapper.Type.Primitive
import BeanMapper.Type.Property
import BeanMapper.Type.Reader
import BeanMapper.Type.Serialized
