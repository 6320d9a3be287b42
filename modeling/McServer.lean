import McServer.Library.Program
import McServer.Library.Interleaving
import McServer.Library.Record
import McServer.Library.Watch
import McServer.Library.Table
import McServer.Library.Accepts
import McServer.Library.Lines
import McServer.Library.Quoting
import McServer.Domain.Text
import McServer.Domain.Server
import McServer.Domain.Instance
import McServer.Store.Schema
import McServer.Store.Repositories
import McServer.Store.Statements
import McServer.Store.Lineage
import McServer.Store.Publishing
import McServer.Store.Readable
import McServer.Store.Writing
import McServer.Agent.Host
import McServer.Agent.Executor
import McServer.Agent.Behaviour
import McServer.Agent.Heading
import McServer.Agent.Restoring
import McServer.Agent.Redelivery
import McServer.Agent.Fencing
import McServer.Protocol.JsonRpc
import McServer.Protocol.Frames
import McServer.Protocol.Sockets
import McServer.ControlPlane.Registry
import McServer.ControlPlane.Provider
import McServer.ControlPlane.Operations
import McServer.ControlPlane.World
import McServer.ControlPlane.Akamai
import McServer.ControlPlane.Local
import McServer.ControlPlane.Reconciliation
import McServer.ControlPlane.Scheduling
import McServer.ControlPlane.ServerService
import McServer.ControlPlane.Credentials
import McServer.ControlPlane.Config
import McServer.ControlPlane.AgentServer
import McServer.ControlPlane.ClientRpc
import McServer.ControlPlane.ProcessStat
import McServer.ControlPlane.ShellValue
import McServer.System
import McServer.System.Effects
import McServer.System.Evolution
import McServer.System.Facts
import McServer.System.Invariant
import McServer.System.Keeping
import McServer.System.DatabaseSteps
import McServer.System.MachineSteps
import McServer.System.AgentSteps
import McServer.System.Steps
import McServer.System.Renting
import McServer.System.Stopping
import McServer.System.Walks
import McServer.System.Processes
import McServer.System.Staffing
import McServer.System.Worker
import McServer.System.Computing
import McServer.System.Orphans
import McServer.System.Reconciling
import McServer.System.Clients
import McServer.System.Connections
import McServer.System.Soundness
import McServer.System.Publication
import McServer.System.Machines
import McServer.System.Changes
import McServer.System.Histories
import McServer.System.Servers
import McServer.System.Rows
import McServer.System.Diagnostics
import McServer.System.Storage
import McServer.System.Enrolment
import McServer.System.Isolation
import McServer.System.Recreation
import McServer.System.Limit
import McServer.System.Reaping
import McServer.System.Buckets
import McServer.System.Calls
import McServer.System.Updates
import McServer.System.Upserts
import McServer.System.Repeats
import McServer.System.Containers
import McServer.System.Expiry
import McServer.Deploy.Document
import McServer.Deploy.Acceptance
import McServer.Deploy.Agreement
import McServer.Deploy.Rollout
import McServer.Deploy.Recovery
