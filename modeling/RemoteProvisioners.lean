import RemoteProvisioners.UnicodeData
import RemoteProvisioners.Runtime
import RemoteProvisioners.State
import RemoteProvisioners.PortRange
import RemoteProvisioners.SelectPorts
import RemoteProvisioners.LaunchCommand
import RemoteProvisioners.PreLaunch
import RemoteProvisioners.Tunnel
import RemoteProvisioners.Teardown
import RemoteProvisioners.Signal
import RemoteProvisioners.Confirm
import RemoteProvisioners.Connection
import RemoteProvisioners.Lifecycle
import RemoteProvisioners.BoundPorts
import RemoteProvisioners.LaunchFailure
import RemoteProvisioners.Progress
import RemoteProvisioners.CommChannel
import RemoteProvisioners.Sockets
