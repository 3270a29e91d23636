import TunnelRelay.Main
import TunnelRelay.Pool.Callers
import TunnelRelay.Pool.Making
import TunnelRelay.Pool.Shared
import TunnelRelay.Simulation.Creation
import TunnelRelay.Simulation.Tunnel
import TunnelRelay.Simulation.Pool
import TunnelRelay.Relay.Client
import TunnelRelay.Tunnel.Identity
import TunnelRelay.Proofs.Pool.Entries
import TunnelRelay.Proofs.Pool.Steps
import TunnelRelay.Proofs.Pool.Growth
import TunnelRelay.Proofs.Pool.Deliveries
import TunnelRelay.Proofs.Pool.Teardowns
import TunnelRelay.Proofs.Pool.Representation
import TunnelRelay.Proofs.Pool.Stability
import TunnelRelay.Proofs.Pool.References
import TunnelRelay.Proofs.Pool.History
import TunnelRelay.Proofs.Pool.Moments
import TunnelRelay.Proofs.Pool.Closing
import TunnelRelay.Proofs.Pool.Attempts
import TunnelRelay.Proofs.Pool.Refusals
import TunnelRelay.Proofs.Pool.Making
import TunnelRelay.Proofs.Pool.Waiting
import TunnelRelay.Proofs.Tunnel.Alone
import TunnelRelay.Proofs.Tunnel.Frames
import TunnelRelay.Proofs.Tunnel.Handlers
import TunnelRelay.Proofs.Tunnel.Relays
import TunnelRelay.Tunnel.Steps
import TunnelRelay.Proofs.Relay.Lanes
import TunnelRelay.Proofs.Relay.Clients
import TunnelRelay.Proofs.Tunnel.Runs
import TunnelRelay.Proofs.Tunnel.Fidelity
import TunnelRelay.Proofs.Tunnel.Accounts
import TunnelRelay.Proofs.PortSearch
import TunnelRelay.Proofs.Tunnel.Admissions
import TunnelRelay.Proofs.Capability
import TunnelRelay.Pool.Gateway
import TunnelRelay.Proofs.Pool.Access
import TunnelRelay.Proofs.Pool.Gateway
import TunnelRelay.Proofs.Pool.Makers
import TunnelRelay.Proofs.Pool.Settling
import TunnelRelay.Proofs.Pool.Orphans
import TunnelRelay.Proofs.PortRange
import TunnelRelay.Proofs.Toml.Lines
import TunnelRelay.Proofs.Toml.Numbers
import TunnelRelay.Proofs.Toml.Documents
import TunnelRelay.Proofs.FileSystem
import TunnelRelay.Proofs.Config.RoundTrip
import TunnelRelay.Proofs.Config.Saving
import TunnelRelay.Proofs.Toml.Regular
import TunnelRelay.Proofs.Config.Records
import TunnelRelay.Proofs.Config.Targets
import TunnelRelay.Proofs.Config.Values
import TunnelRelay.Proofs.Config.Overrides
import TunnelRelay.Proofs.Text.ByteOrder
import TunnelRelay.Proofs.Pool.Labels
import TunnelRelay.Proofs.Pool.Sorting
import TunnelRelay.Proofs.Pool.Restriction
import TunnelRelay.Proofs.Pool.Separation
import TunnelRelay.Proofs.Pool.Isolation
import TunnelRelay.Proofs.Pool.Sortings
import TunnelRelay.Proofs.Pool.Independence
import TunnelRelay.Proofs.Pool.Numbers
import TunnelRelay.Proofs.Pool.Mirrors
import TunnelRelay.Proofs.Locator
import TunnelRelay.Proofs.Scopes
import TunnelRelay.Proofs.Relay.Copying
import TunnelRelay.Proofs.Relay.Copies
import TunnelRelay.Tunnel.Serving
import TunnelRelay.Proofs.Tunnel.Serving
import TunnelRelay.Proofs.Routing
import TunnelRelay.Proofs.Config.Histories
import TunnelRelay.Proofs.CheckedSearch
import TunnelRelay.Proofs.Opening
import TunnelRelay.Session.Launch
import TunnelRelay.Proofs.Session.Stages
import TunnelRelay.Proofs.Session.Requests
import TunnelRelay.Proofs.Session.Networks
import TunnelRelay.Proofs.Session.Launches
