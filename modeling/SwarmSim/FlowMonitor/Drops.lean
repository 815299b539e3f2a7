import SwarmSim.FlowMonitor.Rows

namespace SwarmSim.FlowMonitor

open Ns3 Machine

namespace FlowStats

variable {now packetSize tStart reasonCode : ℕ} {stats : FlowStats}

end FlowStats

namespace Rank

variable {cfg : Config} {now : ℕ} {p : Packet} {fTag fTag' : Option Ipv4MpiFlowProbeTag}
  {rank rank' : Rank} {x : FlowId} {reason : DropReason}

end Rank

variable {cfg : Config} {place : Placement} {T : Trace cfg} {r : Fin 64} {es : List Event}
  {e : Event} {s s' : System} {x : FlowId} {rank' : Rank}

namespace Trace

end Trace

namespace Follows

end Follows

end SwarmSim.FlowMonitor
