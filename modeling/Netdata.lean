import Netdata.Stream.Capabilities
import Netdata.Daemon.Signals
import Netdata.Stream.Receiver
import Netdata.Stream.Sender
import Netdata.Stream.Publication
import Netdata.Stream.Values
import Netdata.Stream.Definition
import Netdata.Stream.Destinations
import Netdata.Stream.Query
import Netdata.Stream.Spawn
import Netdata.Diskspace.Charts
import Netdata.Diskspace.Rounds
import Netdata.Stream.Messages
import Netdata.Diskspace.Schedule
import Netdata.Diskspace.MountPoints
import Netdata.Stream.Config
import Netdata.Stream.Layers
