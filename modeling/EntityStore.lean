import EntityStore.Association.Basic
import EntityStore.Association.Categories
import EntityStore.Association.Comments
import EntityStore.Association.Likes
import EntityStore.Association.Tags
import EntityStore.Billing.Basic
import EntityStore.Billing.Operations
import EntityStore.Billing.Sandbox
import EntityStore.Config
import EntityStore.Database.Connection
import EntityStore.Database.Task
import EntityStore.Document.Basic
import EntityStore.Document.Decode
import EntityStore.Document.Error
import EntityStore.Document.Json
import EntityStore.Domain.Direction
import EntityStore.Domain.Joining
import EntityStore.Domain.Label
import EntityStore.Domain.Mapping
import EntityStore.Domain.Name
import EntityStore.Domain.Punycode
import EntityStore.Error
import EntityStore.Event
import EntityStore.Facade.Basic
import EntityStore.Facade.Block
import EntityStore.Facade.Folder
import EntityStore.Instance.Basic
import EntityStore.Instance.Write
import EntityStore.Instant
import EntityStore.Model.Basic
import EntityStore.Model.Operations
import EntityStore.Model.Registry
import EntityStore.Model.Relation
import EntityStore.Model.Search
import EntityStore.Naming
import EntityStore.Number.Binary64
import EntityStore.Number.Decimal
import EntityStore.Number.Range
import EntityStore.Pattern.Basic
import EntityStore.Pattern.Blank
import EntityStore.Pattern.Bracket
import EntityStore.Pattern.Class
import EntityStore.Pattern.Escape
import EntityStore.Pattern.Expression
import EntityStore.Pattern.Flags
import EntityStore.Pattern.Shape
import EntityStore.Pattern.Size
import EntityStore.Pattern.Syntax
import EntityStore.Proofs.Annotations
import EntityStore.Proofs.Announcements
import EntityStore.Proofs.ApplicationOrder
import EntityStore.Proofs.Batches
import EntityStore.Proofs.Billing
import EntityStore.Proofs.BulkChange
import EntityStore.Proofs.BulkStatements
import EntityStore.Proofs.Calls
import EntityStore.Proofs.Capture
import EntityStore.Proofs.Chunks
import EntityStore.Proofs.Circulation
import EntityStore.Proofs.CleanPieces
import EntityStore.Proofs.Commit
import EntityStore.Proofs.Compiled
import EntityStore.Proofs.Conditions
import EntityStore.Proofs.Counting
import EntityStore.Proofs.Creations
import EntityStore.Proofs.Cursor
import EntityStore.Proofs.Customers
import EntityStore.Proofs.Declared
import EntityStore.Proofs.DerivedNames
import EntityStore.Proofs.Drawing
import EntityStore.Proofs.FacadeFiles
import EntityStore.Proofs.FacadeMethods
import EntityStore.Proofs.FacadeText
import EntityStore.Proofs.Faces
import EntityStore.Proofs.FailedUpdates
import EntityStore.Proofs.FindByKey
import EntityStore.Proofs.FirstOrCreate
import EntityStore.Proofs.GeneratedKeys
import EntityStore.Proofs.Groups
import EntityStore.Proofs.Handle
import EntityStore.Proofs.HiddenValues
import EntityStore.Proofs.History
import EntityStore.Proofs.InsertText
import EntityStore.Proofs.InsertedRows
import EntityStore.Proofs.Insertions
import EntityStore.Proofs.IntegerConditions
import EntityStore.Proofs.Isolation
import EntityStore.Proofs.KeyValues
import EntityStore.Proofs.Keys
import EntityStore.Proofs.Ledger
import EntityStore.Proofs.Likes
import EntityStore.Proofs.Linked
import EntityStore.Proofs.LinkedBatches
import EntityStore.Proofs.Loading
import EntityStore.Proofs.LooseEquality
import EntityStore.Proofs.ManyToMany
import EntityStore.Proofs.Markers
import EntityStore.Proofs.MassAssignment
import EntityStore.Proofs.Merging
import EntityStore.Proofs.Newest
import EntityStore.Proofs.Nulls
import EntityStore.Proofs.Pages
import EntityStore.Proofs.Parentheses
import EntityStore.Proofs.Placeholders
import EntityStore.Proofs.Plucking
import EntityStore.Proofs.Plurals
import EntityStore.Proofs.Precedence
import EntityStore.Proofs.Predicates
import EntityStore.Proofs.Quoting
import EntityStore.Proofs.Records
import EntityStore.Proofs.Regeneration
import EntityStore.Proofs.Rounding
import EntityStore.Proofs.RowUpdates
import EntityStore.Proofs.Rules
import EntityStore.Proofs.Run
import EntityStore.Proofs.Saving
import EntityStore.Proofs.Selection
import EntityStore.Proofs.SharedCategories
import EntityStore.Proofs.Shown
import EntityStore.Proofs.Slots
import EntityStore.Proofs.Slugs
import EntityStore.Proofs.SmallLetters
import EntityStore.Proofs.Sorting
import EntityStore.Proofs.StableSort
import EntityStore.Proofs.StaleSaves
import EntityStore.Proofs.StoredCustomer
import EntityStore.Proofs.Subqueries
import EntityStore.Proofs.Subscriptions
import EntityStore.Proofs.Subselect
import EntityStore.Proofs.Tables
import EntityStore.Proofs.Terminals
import EntityStore.Proofs.Through
import EntityStore.Proofs.Tokens
import EntityStore.Proofs.Trash
import EntityStore.Proofs.TrashedOnce
import EntityStore.Proofs.Trashing
import EntityStore.Proofs.Traversal
import EntityStore.Proofs.Triples
import EntityStore.Proofs.UnitOfWork
import EntityStore.Proofs.Validity
import EntityStore.Proofs.ValueOrder
import EntityStore.Proofs.Wildcards
import EntityStore.Proofs.Write
import EntityStore.Query.Basic
import EntityStore.Query.ColumnName
import EntityStore.Query.Condition
import EntityStore.Query.Fetch
import EntityStore.Query.Operator
import EntityStore.Query.Page
import EntityStore.Query.Run
import EntityStore.Query.Statement
import EntityStore.Relation.Eager
import EntityStore.Relation.Traverse
import EntityStore.Row
import EntityStore.Schema.Basic
import EntityStore.Schema.Column
import EntityStore.Schema.FieldType
import EntityStore.Schema.Traits
import EntityStore.Schema.Validation
import EntityStore.Sql.Identifier
import EntityStore.Sql.Parameter
import EntityStore.Sql.Preparation
import EntityStore.Sql.Render
import EntityStore.Store.Basic
import EntityStore.Store.Compare
import EntityStore.Store.Engine
import EntityStore.Store.Scope
import EntityStore.Store.Select
import EntityStore.Text.Age
import EntityStore.Text.Alphabet
import EntityStore.Text.Break
import EntityStore.Text.Case
import EntityStore.Text.Category
import EntityStore.Text.CharMap
import EntityStore.Text.CharSet
import EntityStore.Text.Composition
import EntityStore.Text.Fold
import EntityStore.Text.Hexadecimal
import EntityStore.Text.NamedSet
import EntityStore.Text.Property
import EntityStore.Text.Run
import EntityStore.Text.Script
import EntityStore.Text.Shown
import EntityStore.Text.Words
import EntityStore.TwoFactor.Basic
import EntityStore.TwoFactor.Operations
import EntityStore.Url.Address
import EntityStore.Url.Basic
import EntityStore.Url.Fault
import EntityStore.Url.Host
import EntityStore.Uuid
import EntityStore.Value.Basic
import EntityStore.Value.Text
import EntityStore.Yaml.Cursor
import EntityStore.Yaml.Data
import EntityStore.Yaml.Node
import EntityStore.Yaml.Plain
import EntityStore.Yaml.Scalar
import EntityStore.Yaml.Token
