import Parlance.Core.Str
import Parlance.Core.Validation
import Parlance.App.Command
import Parlance.Core.HashMap
import Parlance.Core.Peer
import Parlance.Core.Registry
import Parlance.Wire.Utf8
import Parlance.Wire.Json.Write
import Parlance.Wire.Json.Read
import Parlance.Wire.Json.Number
import Parlance.Wire.Json.Content
import Parlance.Wire.Json.Skip
import Parlance.Wire.Json.Value
import Parlance.Wire.Lines
import Parlance.Network.Messaging.Message
import Parlance.Network.Messaging.Send
import Parlance.Network.Messaging.Connection
import Parlance.Network.Discovery.Message
import Parlance.Network.Discovery.Engine
import Parlance.Network.Protocol
import Parlance.App.Console
import Parlance.App.Startup
