import AntWireless.Lib.Exec
import AntWireless.Lib.Mutex
import AntWireless.Lib.Rendezvous
import AntWireless.Lib.Except
import AntWireless.Lib.Bytes
import AntWireless.Lib.Bits
import AntWireless.Lib.Slices
import AntWireless.Lib.Digits
import AntWireless.Lib.Rank
import AntWireless.Lib.LastWrite
import AntWireless.Lib.Interleave
import AntWireless.Defines
import AntWireless.Ruby
import AntWireless.Ruby.Format
import AntWireless.BitVector
import AntWireless.BitVector.Mutation
import AntWireless.BitVector.Views
import AntWireless.BitVector.Operators
import AntWireless.BitVector.Order
import AntWireless.DataUtilities
import AntWireless.Callbacks.Protocol
import AntWireless.Callbacks.Invariant
import AntWireless.Callbacks.Dispatch
import AntWireless.Callbacks.Progress
import AntWireless.Callbacks.Handshake
import AntWireless.Callbacks.Gvl
import AntWireless.Callbacks.Quiescence
import AntWireless.Callbacks.Shutdown
import AntWireless.Callbacks.Order
import AntWireless.Callbacks.Races
import AntWireless.Channel.Model
import AntWireless.Channel.Registry
import AntWireless.Channel.Lifetime
import AntWireless.Channel.Closing
import AntWireless.Channel.Assignment
import AntWireless.Channel.Settings
import AntWireless.Channel.Attributes
import AntWireless.Channel.Narrowing
import AntWireless.Validation
import AntWireless.Channel.Send
import AntWireless.Channel.Inspect
import AntWireless.Channel.EventCallbacks
import AntWireless.Channel.Events
import AntWireless.Channel.Routing
import AntWireless.Channel.Delivery
import AntWireless.Channel.EventBuffer
import AntWireless.Channel.Receive
import AntWireless.Response.Capabilities
import AntWireless.Response.AdvancedBurst
import AntWireless.Response.Handlers
import AntWireless.Response.History
import AntWireless.Response.Dispatch
import AntWireless.Response.Session
import AntWireless.Channel.Diagnostics
import AntWireless.Channel.Identity
import AntWireless.Channel.Memory
import AntWireless.Channel.DefaultHandlers
import AntWireless.Channel.Networks
import AntWireless.Channel.Openness
import AntWireless.Api
import AntWireless.Extension.Model
import AntWireless.Extension.Refinement
import AntWireless.Extension.Realisation
import AntWireless.Extension.Service
