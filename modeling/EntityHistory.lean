import EntityHistory.Named
import EntityHistory.Text.Blank
import EntityHistory.Text.Pieces
import EntityHistory.Text.Quoted
import EntityHistory.Unicode.Categories
import EntityHistory.Unicode.Scripts
import EntityHistory.Unicode.CaseFolding
import EntityHistory.Pattern.Basic
import EntityHistory.Pattern.CharSet
import EntityHistory.Pattern.Engine
import EntityHistory.Pattern.Reader
import EntityHistory.Number.Decimal
import EntityHistory.Number.Reading
import EntityHistory.Json.Basic
import EntityHistory.Json.Printer
import EntityHistory.Json.Reader
import EntityHistory.Time.Calendar
import EntityHistory.Time.Instant
import EntityHistory.Time.Text
import EntityHistory.Time.Reading
import EntityHistory.Geometry.Reader
import EntityHistory.Geometry.Relation
import EntityHistory.Geometry.Distance
import EntityHistory.Query.Term
import EntityHistory.Time.Query
import EntityHistory.Error
import EntityHistory.Context.Document
import EntityHistory.Context.Names
import EntityHistory.Context.Gather
import EntityHistory.Context.Cache
import EntityHistory.Query.Literal
import EntityHistory.Query.Reader
import EntityHistory.Entity.Value
import EntityHistory.Entity.Log
import EntityHistory.Entity.Lifecycle
import EntityHistory.Entity.Temporal
import EntityHistory.Query.Evaluate
import EntityHistory.Query.Geo
import EntityHistory.Query.Temporal
import EntityHistory.Interval.Basic
import EntityHistory.Interval.Algebra
import EntityHistory.Interval.Timeline
import EntityHistory.Interval.Page
import EntityHistory.Interval.Plan
import EntityHistory.Interval.Governor
import EntityHistory.Store.Repository
import EntityHistory.Sql.Fragment
import EntityHistory.Sql.Condition
import EntityHistory.Sql.Relation
import EntityHistory.Sql.Statements
import EntityHistory.Entity.Creation
import EntityHistory.Store.Memory
import EntityHistory.Store.Opening
import EntityHistory.Store.Rows
import EntityHistory.Store.Database
import EntityHistory.Service.Creations
import EntityHistory.Service.Reconstruction
import EntityHistory.Service.Answer
import EntityHistory.Service.Request
import EntityHistory.Settings.Basic
import EntityHistory.Http.Form
import EntityHistory.Http.Link
import EntityHistory.Http.Metrics
import EntityHistory.Http.Problem
import EntityHistory.Http.Router
import EntityHistory.Text.Bytes
import EntityHistory.Text.Percent
import EntityHistory.Settings.Toml
import EntityHistory.Settings.Tree
import EntityHistory.Settings.Variables
import EntityHistory.Settings.Written
import EntityHistory.Settings.Load
import EntityHistory.Proofs.Interval.Canonical
import EntityHistory.Proofs.Interval.Algebra
import EntityHistory.Proofs.Running
import EntityHistory.Proofs.Interval.Plan
import EntityHistory.Proofs.Names
import EntityHistory.Proofs.Timeline.Collapse
import EntityHistory.Proofs.Entity.Temporal
import EntityHistory.Proofs.Timeline.Carry
import EntityHistory.Proofs.Entity.Creation
import EntityHistory.Proofs.Service.Reconstruction
import EntityHistory.Proofs.Interval.Governor
import EntityHistory.Proofs.Service.Shown
import EntityHistory.Proofs.Service.Share
import EntityHistory.Proofs.Service.LastInstances
import EntityHistory.Proofs.Interval.Build
import EntityHistory.Proofs.Query.Layout
import EntityHistory.Proofs.Sql.Tables
import EntityHistory.Proofs.Sql.Windows
import EntityHistory.Proofs.Timeline.Groups
import EntityHistory.Proofs.Sql.Samples
import EntityHistory.Proofs.Sql.ReadBack
import EntityHistory.Proofs.Sql.Placeholders
import EntityHistory.Proofs.Sql.Shape
import EntityHistory.Proofs.Query.Accepted
import EntityHistory.Proofs.Sql.Typing
import EntityHistory.Proofs.Store.Retrieval
import EntityHistory.Proofs.Store.Filtered
import EntityHistory.Proofs.Sql.Agreement
import EntityHistory.Proofs.Sql.Instances
import EntityHistory.Proofs.Sql.Clauses
import EntityHistory.Proofs.Sql.Joins
import EntityHistory.Proofs.Sql.Leaves
import EntityHistory.Proofs.Sql.Runs
import EntityHistory.Proofs.Service.Complete
import EntityHistory.Proofs.Interval.Walk
import EntityHistory.Proofs.Sql.Pages
import EntityHistory.Proofs.Sql.Numbers
import EntityHistory.Proofs.Http.Link
import EntityHistory.Proofs.Context.Names
import EntityHistory.Proofs.Entity.Rendering
import EntityHistory.Proofs.Context.Cache
import EntityHistory.Proofs.Context.Order
import EntityHistory.Proofs.Context.Slots
import EntityHistory.Proofs.Store.Candidates
import EntityHistory.Proofs.Service.Reading
import EntityHistory.Proofs.Service.OneEntity
import EntityHistory.Proofs.Text.Slices
import EntityHistory.Proofs.Text.Exposed
import EntityHistory.Proofs.Query.Positions
import EntityHistory.Proofs.Query.Unanswered
import EntityHistory.Proofs.Interval.NormalForm
import EntityHistory.Proofs.Timeline.Ranks
import EntityHistory.Proofs.Timeline.LookAhead
import EntityHistory.Proofs.Service.Calls
import EntityHistory.Proofs.Sql.Scope
import EntityHistory.Proofs.Context.Imports
import EntityHistory.Proofs.Context.Capacity
import EntityHistory.Proofs.Context.Definitions
import EntityHistory.Proofs.Entity.Lifecycle
import EntityHistory.Proofs.Service.Creations
import EntityHistory.Proofs.Sql.Creations
import EntityHistory.Proofs.Text.ByteOrder
import EntityHistory.Proofs.Context.Tables
import EntityHistory.Proofs.Interval.Asking
import EntityHistory.Proofs.Text.Cuts
import EntityHistory.Proofs.Query.Coherence
import EntityHistory.Proofs.Entity.Merging
import EntityHistory.Proofs.Entity.Pairs
import EntityHistory.Proofs.Interval.Words
import EntityHistory.Proofs.Http.ContextLink
