import ContractRollout.Bindings
import ContractRollout.Chain.Attribute
import ContractRollout.Chain.Client
import ContractRollout.Chain.Confirmation
import ContractRollout.Chain.Deployment
import ContractRollout.Chain.Session
import ContractRollout.Chain.Wallet
import ContractRollout.Config.Chain
import ContractRollout.Config.Contract
import ContractRollout.Config.Settings
import ContractRollout.Entry.Deploy
import ContractRollout.Entry.Ending
import ContractRollout.Entry.Verify
import ContractRollout.Fault.Access
import ContractRollout.Fault.Basic
import ContractRollout.Fault.Configuration
import ContractRollout.Fault.Deployment
import ContractRollout.Fault.Persistence
import ContractRollout.FileTree.Basic
import ContractRollout.FileTree.Change
import ContractRollout.FileTree.Document
import ContractRollout.FileTree.Error
import ContractRollout.FileTree.Path
import ContractRollout.Json.Basic
import ContractRollout.Json.Display
import ContractRollout.Json.Equality
import ContractRollout.Json.Members
import ContractRollout.Json.Reader
import ContractRollout.Json.Writer
import ContractRollout.Main
import ContractRollout.Number.Basic
import ContractRollout.Number.Binary64
import ContractRollout.Number.Integer
import ContractRollout.Number.Shortest
import ContractRollout.Proofs.Chain.Attribute
import ContractRollout.Proofs.Chain.AttributeSearch
import ContractRollout.Proofs.Chain.Confirmation
import ContractRollout.Proofs.Chain.Contracts
import ContractRollout.Proofs.Chain.Deployment
import ContractRollout.Proofs.Chain.Doubt
import ContractRollout.Proofs.Chain.Failures
import ContractRollout.Proofs.Chain.Identity
import ContractRollout.Proofs.Chain.Polling
import ContractRollout.Proofs.Chain.Sessions
import ContractRollout.Proofs.Config.Acceptance
import ContractRollout.Proofs.Config.Chain
import ContractRollout.Proofs.Config.Defaults
import ContractRollout.Proofs.Config.Layers
import ContractRollout.Proofs.Entry.Completion
import ContractRollout.Proofs.Entry.Confirmed
import ContractRollout.Proofs.Entry.Corruption
import ContractRollout.Proofs.Entry.Footprint
import ContractRollout.Proofs.Entry.Network
import ContractRollout.Proofs.Entry.Preparation
import ContractRollout.Proofs.Entry.Verification
import ContractRollout.Proofs.FileTree.Changes
import ContractRollout.Proofs.FileTree.Directories
import ContractRollout.Proofs.FileTree.Places
import ContractRollout.Proofs.FileTree.Ways
import ContractRollout.Proofs.Json.Documents
import ContractRollout.Proofs.Json.Foreign
import ContractRollout.Proofs.Json.Grammar
import ContractRollout.Proofs.Json.Legible
import ContractRollout.Proofs.Json.Numerals
import ContractRollout.Proofs.Json.RoundTrip
import ContractRollout.Proofs.Json.Stops
import ContractRollout.Proofs.Json.Texts
import ContractRollout.Proofs.Number.Rounding
import ContractRollout.Proofs.Number.Shortest
import ContractRollout.Proofs.Outcomes
import ContractRollout.Proofs.Parallel
import ContractRollout.Proofs.Record.AllOrNothing
import ContractRollout.Proofs.Record.Catalogue
import ContractRollout.Proofs.Record.FirstWrite
import ContractRollout.Proofs.Record.Footprint
import ContractRollout.Proofs.Record.Kept
import ContractRollout.Proofs.Record.Leftovers
import ContractRollout.Proofs.Record.Names
import ContractRollout.Proofs.Record.Network
import ContractRollout.Proofs.Record.Paths
import ContractRollout.Proofs.Record.Store
import ContractRollout.Proofs.Record.Writable
import ContractRollout.Proofs.Rollout.Additions
import ContractRollout.Proofs.Rollout.Commuting
import ContractRollout.Proofs.Rollout.Dependencies
import ContractRollout.Proofs.Rollout.Effects
import ContractRollout.Proofs.Rollout.Footprint
import ContractRollout.Proofs.Rollout.History
import ContractRollout.Proofs.Rollout.InMemory
import ContractRollout.Proofs.Rollout.InitMessage
import ContractRollout.Proofs.Rollout.Isolation
import ContractRollout.Proofs.Rollout.Precedence
import ContractRollout.Proofs.Rollout.Resumption
import ContractRollout.Proofs.Rollout.Retries
import ContractRollout.Proofs.Rollout.Signing
import ContractRollout.Proofs.Rollout.SingleDeployment
import ContractRollout.Proofs.Rollout.Stages
import ContractRollout.Proofs.Rollout.Steps
import ContractRollout.Proofs.Rollout.Transactions
import ContractRollout.Proofs.Rollout.Unrecorded
import ContractRollout.Record.Network
import ContractRollout.Record.Store
import ContractRollout.Rehearsal.Basic
import ContractRollout.Rehearsal.Body.Block
import ContractRollout.Rehearsal.Body.Character
import ContractRollout.Rehearsal.Body.Decoding
import ContractRollout.Rehearsal.Body.Encoding
import ContractRollout.Rehearsal.Body.Language
import ContractRollout.Rehearsal.Body.Letter
import ContractRollout.Rehearsal.Body.Plausibility
import ContractRollout.Rehearsal.Files
import ContractRollout.Rollout.Deployer
import ContractRollout.Rollout.Run
import ContractRollout.Rollout.Step
import ContractRollout.Text.Character
import ContractRollout.Text.CodeUnit
import ContractRollout.Text.Lines
import ContractRollout.Text.Printable
import ContractRollout.Text.Quoted
