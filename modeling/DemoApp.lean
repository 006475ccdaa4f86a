import DemoApp.Support.Machine
import DemoApp.Support.LiveMap
import DemoApp.Support.Cells
import DemoApp.Support.Script
import DemoApp.Support.Json
import DemoApp.Support.Url
import DemoApp.Common.Middleware
import DemoApp.Common.Visiting
import DemoApp.Common.Composition
import DemoApp.Common.Transparency
import DemoApp.Sfu.Protocol
import DemoApp.Sfu.ClientEvents
import DemoApp.Sfu.Room
import DemoApp.Sfu.RoomFrame
import DemoApp.Sfu.RoomCore
import DemoApp.Sfu.RoomTurn
import DemoApp.Sfu.RoomClosing
import DemoApp.Sfu.RoomHandlers
import DemoApp.Sfu.RoomTables
import DemoApp.Sfu.Uniqueness
import DemoApp.Sfu.Coverage
import DemoApp.Sfu.Delivery
import DemoApp.Sfu.Isolation
import DemoApp.Sfu.Departure
import DemoApp.Sfu.Transports
import DemoApp.Sfu.Reconnect
import DemoApp.Sfu.Answers
import DemoApp.Sfu.TransportOrder
import DemoApp.Sfu.Wire
import DemoApp.Sfu.Malformed
import DemoApp.Sfu.Notices
import DemoApp.Sfu.Announcements
import DemoApp.Sfu.Later
import DemoApp.Sfu.Provenance
import DemoApp.Sfu.Separation
import DemoApp.Sfu.Obligations
import DemoApp.Sfu.Grants
import DemoApp.Sfu.Readiness
import DemoApp.Sfu.Rooms
import DemoApp.Sfu.SingleFlight
import DemoApp.Sfu.Registry
import DemoApp.Sfu.Server
import DemoApp.Sfu.Sockets
import DemoApp.Sfu.Frames
import DemoApp.Sfu.Ghosts
import DemoApp.Sfu.Membership
import DemoApp.Observer.Sources
import DemoApp.Observer.Store
import DemoApp.Observer.Expiry
import DemoApp.Observer.Ownership
import DemoApp.Observer.Sessions
import DemoApp.Observer.Attribution
import DemoApp.Observer.Calls
import DemoApp.Observer.TurnUsage
import DemoApp.Observer.Books
import DemoApp.Observer.Process
import DemoApp.Samples.ObserverServiceClient
import DemoApp.Samples.Conservation
import DemoApp.Samples.Lost
import DemoApp.Samples.OneConnection
import DemoApp.Samples.Page
import DemoApp.Samples.Pipeline
import DemoApp.Webapp.ServerConnection
import DemoApp.Webapp.Attempts
import DemoApp.Webapp.Signalling
import DemoApp.Webapp.MediasoupService
import DemoApp.Webapp.Mirror
import DemoApp.Webapp.RemoteClients
import DemoApp.Webapp.Streams
import DemoApp.Webapp.Presence
import DemoApp.Webapp.TrackIds
import DemoApp.Webapp.Joining
import DemoApp.Webapp.Connect
import DemoApp.Webapp.Session
import DemoApp.Webapp.Playing
import DemoApp.Webapp.Conference
import DemoApp.Webapp.Handshake
import DemoApp.Webapp.Agreement
import DemoApp.Webapp.Everybody
import DemoApp.Webapp.QueryString
import DemoApp.Webapp.LocalClientMediaBox
import DemoApp.Webapp.Publishing
