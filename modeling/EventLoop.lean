import EventLoop.Address
import EventLoop.Agenda
import EventLoop.Bucket
import EventLoop.Bytes
import EventLoop.Clock
import EventLoop.Dispatch
import EventLoop.Event
import EventLoop.Fault
import EventLoop.Frame.Catalogue
import EventLoop.Frame.Header
import EventLoop.Frame.Intake
import EventLoop.Hex
import EventLoop.Keyed
import EventLoop.Lanes
import EventLoop.Loop.Basic
import EventLoop.Loop.Plea
import EventLoop.Loop.Turn
import EventLoop.Poller
import EventLoop.Pool
import EventLoop.Proofs.Agenda.Dockets
import EventLoop.Proofs.Agenda.Heaps
import EventLoop.Proofs.Bucket.Asides
import EventLoop.Proofs.Bucket.Climbs
import EventLoop.Proofs.Bucket.Stock
import EventLoop.Proofs.Bucket.Tank
import EventLoop.Proofs.Bucket.Windows
import EventLoop.Proofs.Dispatch.Crew
import EventLoop.Proofs.Dispatch.Custody
import EventLoop.Proofs.Dispatch.Hall
import EventLoop.Proofs.Dispatch.Lives
import EventLoop.Proofs.Dispatch.Orders
import EventLoop.Proofs.Dispatch.Refusals
import EventLoop.Proofs.Dispatch.Shifts
import EventLoop.Proofs.Dispatch.Staff
import EventLoop.Proofs.Dispatch.Turns
import EventLoop.Proofs.Frame.Ceilings
import EventLoop.Proofs.Frame.Cuts
import EventLoop.Proofs.Frame.Enrolments
import EventLoop.Proofs.Frame.Grammar
import EventLoop.Proofs.Frame.Streams
import EventLoop.Proofs.Loop.Batches
import EventLoop.Proofs.Loop.Beats
import EventLoop.Proofs.Loop.Changes
import EventLoop.Proofs.Loop.Conservation
import EventLoop.Proofs.Loop.Courses
import EventLoop.Proofs.Loop.Generations
import EventLoop.Proofs.Loop.Interleavings
import EventLoop.Proofs.Loop.Journals
import EventLoop.Proofs.Loop.Ledger
import EventLoop.Proofs.Loop.Lifetimes
import EventLoop.Proofs.Loop.Marks
import EventLoop.Proofs.Loop.Metronomes
import EventLoop.Proofs.Loop.Minutes
import EventLoop.Proofs.Loop.Neighbours
import EventLoop.Proofs.Loop.Owners
import EventLoop.Proofs.Loop.Passes
import EventLoop.Proofs.Loop.Places
import EventLoop.Proofs.Loop.Rearmings
import EventLoop.Proofs.Loop.Registrations
import EventLoop.Proofs.Loop.Removals
import EventLoop.Proofs.Loop.Rollbacks
import EventLoop.Proofs.Loop.Shadows
import EventLoop.Proofs.Loop.Sides
import EventLoop.Proofs.Loop.Stages
import EventLoop.Proofs.Loop.Strangers
import EventLoop.Proofs.Loop.Upkeep
import EventLoop.Proofs.Loop.Vigils
import EventLoop.Proofs.Pool.Lendings
import EventLoop.Proofs.Selector.Admissions
import EventLoop.Proofs.Selector.Demands
import EventLoop.Proofs.Server.Answers
import EventLoop.Proofs.Server.Borrowing
import EventLoop.Proofs.Server.Budgets
import EventLoop.Proofs.Server.Comings
import EventLoop.Proofs.Server.Departures
import EventLoop.Proofs.Server.Effects
import EventLoop.Proofs.Server.Holdings
import EventLoop.Proofs.Server.Incidents
import EventLoop.Proofs.Server.Isolation
import EventLoop.Proofs.Server.Outflow
import EventLoop.Proofs.Server.Outlets
import EventLoop.Proofs.Server.Passages
import EventLoop.Proofs.Server.Promises
import EventLoop.Proofs.Server.Reading
import EventLoop.Proofs.Server.Replies
import EventLoop.Proofs.Server.Requests
import EventLoop.Proofs.Server.Responses
import EventLoop.Proofs.Server.Rollcall
import EventLoop.Proofs.Server.Rounds
import EventLoop.Proofs.Server.Threads
import EventLoop.Proofs.Server.Wakings
import EventLoop.Proofs.Session.Acts
import EventLoop.Proofs.Session.Broadcasts
import EventLoop.Proofs.Session.Closings
import EventLoop.Proofs.Session.Confines
import EventLoop.Proofs.Session.Memberships
import EventLoop.Proofs.Session.Speeches
import EventLoop.Proofs.Session.Waiting
import EventLoop.Proofs.Signal.Hearings
import EventLoop.Readiness
import EventLoop.Selector
import EventLoop.Server.Basic
import EventLoop.Server.Connection
import EventLoop.Server.Network
import EventLoop.Session.Basic
import EventLoop.Session.Roster
import EventLoop.Settings.Field
import EventLoop.Settings.Loop
import EventLoop.Settings.Server
import EventLoop.Signal
import EventLoop.Span
import EventLoop.Toml.Document
import EventLoop.Toml.Reader
import EventLoop.Toml.Scalar
import EventLoop.Toml.Value
import EventLoop.Trial.Actor
import EventLoop.Trial.Bench
import EventLoop.Trial.Log
import EventLoop.Trial.Scenario
import EventLoop.Trial.Shelf
import EventLoop.Trial.Stage
import EventLoop.Trial.Stream
import EventLoop.Trial.Telegram
import EventLoop.Trial.Venue
import EventLoop.Trial.Workshop
import EventLoop.Word
