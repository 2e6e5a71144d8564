import KeyBridge.Action.Basic
import KeyBridge.Action.Effect
import KeyBridge.Action.Header
import KeyBridge.Action.Held
import KeyBridge.Action.KeyAction
import KeyBridge.Action.Layout
import KeyBridge.Action.Release
import KeyBridge.Action.Shown
import KeyBridge.Block
import KeyBridge.Bridge
import KeyBridge.Callback.Host
import KeyBridge.Callback.Script
import KeyBridge.Client
import KeyBridge.Config.Basic
import KeyBridge.Config.Read
import KeyBridge.Direction
import KeyBridge.Document.Error
import KeyBridge.Document.Reader
import KeyBridge.Document.Record
import KeyBridge.Duration
import KeyBridge.Engine.Basic
import KeyBridge.Engine.CheckedCall
import KeyBridge.Engine.LoadOption
import KeyBridge.Engine.Minimal
import KeyBridge.Engine.Recording
import KeyBridge.Engine.Replay
import KeyBridge.Event
import KeyBridge.Generator
import KeyBridge.Key.Basic
import KeyBridge.Key.Label
import KeyBridge.Key.Set
import KeyBridge.Key.Spelling
import KeyBridge.Logging.Arguments
import KeyBridge.Logging.Filter
import KeyBridge.Network.Basic
import KeyBridge.Network.Conn
import KeyBridge.Network.End
import KeyBridge.Network.Pipe
import KeyBridge.Network.Shown
import KeyBridge.Number.Binary
import KeyBridge.Number.Shortest
import KeyBridge.Number.Single
import KeyBridge.Proofs.Accounts
import KeyBridge.Proofs.Agreement
import KeyBridge.Proofs.Attachments
import KeyBridge.Proofs.Berths
import KeyBridge.Proofs.Binds
import KeyBridge.Proofs.Bridges
import KeyBridge.Proofs.Callbacks
import KeyBridge.Proofs.CallSites
import KeyBridge.Proofs.Calm
import KeyBridge.Proofs.Changes
import KeyBridge.Proofs.Channels
import KeyBridge.Proofs.Codec
import KeyBridge.Proofs.Cuts
import KeyBridge.Proofs.Deeds
import KeyBridge.Proofs.Enclosure
import KeyBridge.Proofs.Endpoints
import KeyBridge.Proofs.Ends
import KeyBridge.Proofs.Exchanges
import KeyBridge.Proofs.FirstReadings
import KeyBridge.Proofs.Guards
import KeyBridge.Proofs.HangUps
import KeyBridge.Proofs.Headers
import KeyBridge.Proofs.Holdings
import KeyBridge.Proofs.Installation
import KeyBridge.Proofs.Keyboard
import KeyBridge.Proofs.Leases
import KeyBridge.Proofs.LettingGo
import KeyBridge.Proofs.Lifecycle
import KeyBridge.Proofs.Links
import KeyBridge.Proofs.Listings
import KeyBridge.Proofs.Literals
import KeyBridge.Proofs.Messages
import KeyBridge.Proofs.Moves
import KeyBridge.Proofs.Neighbours
import KeyBridge.Proofs.Outline
import KeyBridge.Proofs.Ownership
import KeyBridge.Proofs.Passages
import KeyBridge.Proofs.Places
import KeyBridge.Proofs.Quoting
import KeyBridge.Proofs.Readings
import KeyBridge.Proofs.Recordings
import KeyBridge.Proofs.Reentrancy
import KeyBridge.Proofs.Registrations
import KeyBridge.Proofs.Releases
import KeyBridge.Proofs.Replays
import KeyBridge.Proofs.Requests
import KeyBridge.Proofs.Runs
import KeyBridge.Proofs.Sharing
import KeyBridge.Proofs.Spellings
import KeyBridge.Proofs.Stations
import KeyBridge.Proofs.Story
import KeyBridge.Proofs.Straight
import KeyBridge.Proofs.StuckKeys
import KeyBridge.Proofs.Turns
import KeyBridge.Proofs.Ways
import KeyBridge.Proofs.Words
import KeyBridge.Script.SendMode
import KeyBridge.Script.Statement
import KeyBridge.Server.Basic
import KeyBridge.Server.State
import KeyBridge.Server.Switchboard
import KeyBridge.Site
import KeyBridge.Socket.Directory
import KeyBridge.Socket.Files
import KeyBridge.Socket.Path
import KeyBridge.Table
import KeyBridge.Text.Alphanumeric
import KeyBridge.Text.Blank
import KeyBridge.Text.Lines
import KeyBridge.Text.Literal
import KeyBridge.Text.Printable
import KeyBridge.Text.Ranges
import KeyBridge.Text.Replace
import KeyBridge.Text.Shown
import KeyBridge.Text.Split
import KeyBridge.Wire.Codec
