import Tinkerbell.Template.Accepted
import Tinkerbell.Template.Funcs
import Tinkerbell.Server.Selection
import Tinkerbell.Server.OptOut
import Tinkerbell.Server.ObjectName
import Tinkerbell.Server.Discovered
import Tinkerbell.Server.RuleSets
import Tinkerbell.Controller.Toggle
import Tinkerbell.Controller.References
import Tinkerbell.Agent.Timeout
import Tinkerbell.Agent.Volumes
import Tinkerbell.Agent.Kubernetes
import Tinkerbell.Agent.DecodedBatches
import Tinkerbell.Agent.JsonLog
import Tinkerbell.Agent.ResolvConf
import Tinkerbell.System.Completion
import Tinkerbell.System.HandOff
import Tinkerbell.System.Deadline
import Tinkerbell.System.Final
import Tinkerbell.System.JobOnce
import Tinkerbell.System.Stall
import Tinkerbell.System.Disabled
import Tinkerbell.System.Delivery
import Tinkerbell.System.Conditions
import Tinkerbell.Backend.Secondstar
import Tinkerbell.Http.ForwardedFor
import Tinkerbell.Rufio.TaskReconcile
import Tinkerbell.Rufio.StaleCache
import Tinkerbell.Rufio.Observed
import Tinkerbell.Rufio.Refresh
import Tinkerbell.Rufio.InventoryOrder
import Tinkerbell.Smee.SyslogFields
import Tinkerbell.Smee.SyslogTag
import Tinkerbell.Smee.Chainload
import Tinkerbell.Smee.OptOut
import Tinkerbell.Smee.BinaryPatch
import Tinkerbell.Smee.BootFile
import Tinkerbell.Smee.LookupInterface
import Tinkerbell.Tootles.Instance
import Tinkerbell.Tootles.StaticRoute
import Tinkerbell.Secondstar.Closing
import Tinkerbell.Secondstar.Output
import Tinkerbell.Ui.Auth
import Tinkerbell.Smee.Ipam
import Tinkerbell.Smee.IsoPatch
