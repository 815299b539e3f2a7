import SwarmSim.Ns3.StaticRouting
import SwarmSim.Wcmp.Cache
import SwarmSim.Wcmp.Interfaces
import SwarmSim.Wcmp.LongestPrefix
import SwarmSim.Wcmp.Proportional
import SwarmSim.Wcmp.Removal
import SwarmSim.Clos.Repair
import SwarmSim.Clos.Delivery
import SwarmSim.Clos.Ranks
import SwarmSim.Clos.Ownership
import SwarmSim.FlowMonitor.Partition
import SwarmSim.FlowMonitor.FindFlow
import SwarmSim.FlowMonitor.FlowIds
import SwarmSim.FlowMonitor.Balance
import SwarmSim.Flows.Dispatch
import SwarmSim.Flows.Migration
import SwarmSim.Flows.MigrationDraw
import SwarmSim.Flows.Lifecycle
import SwarmSim.Flows.ReadBack
import SwarmSim.Flows.ShortFile
import SwarmSim.Scenario.Exact
import SwarmSim.FlowMonitor.Receipt
import SwarmSim.FlowMonitor.ResultParser
import SwarmSim.Clos.Ports
import SwarmSim.Wcmp.Ecmp
import SwarmSim.Wcmp.Hasher
import SwarmSim.Wcmp.Isolation
import SwarmSim.Wcmp.Duplicates
import SwarmSim.Clos.Queues
import SwarmSim.Clos.Bounce
import SwarmSim.Clos.Script
import SwarmSim.Clos.Settled
import SwarmSim.Clos.Traffic
import SwarmSim.FlowMonitor.HostIndex
import SwarmSim.Flows.SingleFlow
import SwarmSim.Offline.ReadAllCsv
import SwarmSim.Offline.Experiments
import SwarmSim.Flows.Deployment
import SwarmSim.Offline.Tables
import SwarmSim.FlowMonitor.Statistics
import SwarmSim.FlowMonitor.Results
import SwarmSim.FlowMonitor.Wire
import SwarmSim.FlowMonitor.InFlight
import SwarmSim.Scenario.Session
import SwarmSim.Clos.Spreading
import SwarmSim.Flows.Redraw
