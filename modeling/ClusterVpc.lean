import ClusterVpc.Net.IP
import ClusterVpc.Net.Cidr
import ClusterVpc.Cloud.Records
import ClusterVpc.Cloud.Provider
import ClusterVpc.Cloud.Invariants
import ClusterVpc.Planner.Increment
import ClusterVpc.Planner.Subnets
import ClusterVpc.Planner.Candidates
import ClusterVpc.Reconciler.Lookup
import ClusterVpc.Reconciler.Provision
import ClusterVpc.Reconciler.Pass
import ClusterVpc.Reconciler.Passes
import ClusterVpc.Reconciler.SecurityGroup
import ClusterVpc.Reconciler.Outcome
import ClusterVpc.Reconciler.Aborts
import ClusterVpc.Reconciler.Blocks
import ClusterVpc.Reconciler.GroupPasses
import ClusterVpc.Reconciler.Operator
import ClusterVpc.Stages.Status
import ClusterVpc.Stages.Verdicts
import ClusterVpc.Stages.Polling
