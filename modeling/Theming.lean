import Theming.Binder
import Theming.BindingError
import Theming.Boundary
import Theming.Color
import Theming.CommandLine
import Theming.Companion.Source
import Theming.Data.Json
import Theming.Data.Toml
import Theming.Data.Toml.Scalar
import Theming.Data.Toml.Table
import Theming.Data.Value
import Theming.Declaration
import Theming.Declaration.Codec
import Theming.Derive.Attributes
import Theming.Derive.Expansion
import Theming.Description
import Theming.Description.Codec
import Theming.Emission
import Theming.Emission.Codec
import Theming.FileTree
import Theming.Generation
import Theming.Live.Action
import Theming.Live.Binding
import Theming.Live.Changes
import Theming.Live.Codec
import Theming.Live.Companions
import Theming.Live.Skins
import Theming.Live.Slot
import Theming.Live.World
import Theming.Log
import Theming.Log.Filter
import Theming.Main
import Theming.Manifest
import Theming.Naming
import Theming.Path
import Theming.Proofs.Accounting
import Theming.Proofs.Activating
import Theming.Proofs.Admission
import Theming.Proofs.Aftermath
import Theming.Proofs.Agreement
import Theming.Proofs.Ancestry
import Theming.Proofs.Annals
import Theming.Proofs.Association
import Theming.Proofs.Bonds
import Theming.Proofs.Broadcasting
import Theming.Proofs.Bytewise
import Theming.Proofs.Candor
import Theming.Proofs.Catalog
import Theming.Proofs.Checks
import Theming.Proofs.Chronicle
import Theming.Proofs.Clearing
import Theming.Proofs.Collisions
import Theming.Proofs.Composing
import Theming.Proofs.Conservation
import Theming.Proofs.Contents
import Theming.Proofs.Coverage
import Theming.Proofs.Custody
import Theming.Proofs.Declared
import Theming.Proofs.Delivery
import Theming.Proofs.Deriving
import Theming.Proofs.Describing
import Theming.Proofs.Documents
import Theming.Proofs.Effects
import Theming.Proofs.Endowing
import Theming.Proofs.Faults
import Theming.Proofs.Fields
import Theming.Proofs.Fitting
import Theming.Proofs.Flattening
import Theming.Proofs.Folders
import Theming.Proofs.Growth
import Theming.Proofs.Hexadecimal
import Theming.Proofs.Joining
import Theming.Proofs.Layout
import Theming.Proofs.Leading
import Theming.Proofs.Ledger
import Theming.Proofs.Listening
import Theming.Proofs.Listing
import Theming.Proofs.Making
import Theming.Proofs.Memoization
import Theming.Proofs.Merging
import Theming.Proofs.Modifiers
import Theming.Proofs.Moments
import Theming.Proofs.Nesting
import Theming.Proofs.Numerals
import Theming.Proofs.Observing
import Theming.Proofs.Outcome
import Theming.Proofs.Outline
import Theming.Proofs.Parting
import Theming.Proofs.Passage
import Theming.Proofs.Performing
import Theming.Proofs.Phrasing
import Theming.Proofs.Places
import Theming.Proofs.Plain
import Theming.Proofs.Planning
import Theming.Proofs.Poise
import Theming.Proofs.Printing
import Theming.Proofs.Probing
import Theming.Proofs.Products
import Theming.Proofs.Quoting
import Theming.Proofs.Reacting
import Theming.Proofs.Rebinding
import Theming.Proofs.Reentrance
import Theming.Proofs.Refreshing
import Theming.Proofs.Refusing
import Theming.Proofs.Regeneration
import Theming.Proofs.Registering
import Theming.Proofs.Release
import Theming.Proofs.Renewal
import Theming.Proofs.Replaying
import Theming.Proofs.Runs
import Theming.Proofs.Saving
import Theming.Proofs.Scanning
import Theming.Proofs.Search
import Theming.Proofs.Serving
import Theming.Proofs.Sessions
import Theming.Proofs.SkinFolders
import Theming.Proofs.SkinTables
import Theming.Proofs.Skins
import Theming.Proofs.Slashes
import Theming.Proofs.Sound
import Theming.Proofs.Spelling
import Theming.Proofs.Splitting
import Theming.Proofs.Steadiness
import Theming.Proofs.Stems
import Theming.Proofs.Storing
import Theming.Proofs.Streaming
import Theming.Proofs.Synthesis
import Theming.Proofs.Tables
import Theming.Proofs.ThemeChange
import Theming.Proofs.Trimming
import Theming.Proofs.Typesetting
import Theming.Proofs.Upcasting
import Theming.Proofs.Vacating
import Theming.Proofs.Watching
import Theming.Registry
import Theming.Resolver
import Theming.Resource
import Theming.Resource.Codec
import Theming.Skin
import Theming.Syntax.Code
import Theming.Syntax.Grammar
import Theming.Syntax.Identifier
import Theming.Syntax.Item
import Theming.Syntax.Lexer
import Theming.Syntax.Literal
import Theming.Syntax.Reader
import Theming.Syntax.Tree
import Theming.Syntax.TypeExpr
import Theming.Syntax.Visibility
import Theming.Target
import Theming.Target.Codec
import Theming.Text.Blank
import Theming.Text.Casing
import Theming.Text.Lossy
import Theming.Text.Numeral
import Theming.Text.Quoted
import Theming.Text.Ranges
import Theming.Text.Word
import Theming.TypeInfo
