import Hybridnet.Net.Address
import Hybridnet.Go.Map
import Hybridnet.Go.Except
import Hybridnet.Calculator.Range
import Hybridnet.Calculator.Split
import Hybridnet.Calculator.Blocks
import Hybridnet.Calculator.Exclude
import Hybridnet.Calculator.Minimality
import Hybridnet.Kernel.Netlink
import Hybridnet.Route.Rules
import Hybridnet.Route.Subnet
import Hybridnet.Route.Frame
import Hybridnet.Route.RuleLast
import Hybridnet.Route.Tables
import Hybridnet.Route.Vxlan
import Hybridnet.Route.Manager
import Hybridnet.Daemon.Network
import Hybridnet.Daemon.Controller
import Hybridnet.Addr.Manager
import Hybridnet.Addr.Sync
import Hybridnet.Addr.Settle
import Hybridnet.Addr.Frame
import Hybridnet.Remote.Naming
import Hybridnet.Remote.Reconcile
import Hybridnet.Remote.Mirror
import Hybridnet.Remote.Status
import Hybridnet.Daemon.Hub
import Hybridnet.Ipam.Transform
