import Leadertask.Proof.Ownership
import Leadertask.Proof.RateLimit
import Leadertask.Proof.Owners
import Leadertask.Proof.TaskLists
import Leadertask.Proof.Usable
import Leadertask.Proof.Search
import Leadertask.Proof.TaskSimulation
import Leadertask.Proof.ReadBack
import Leadertask.Proof.Validation
import Leadertask.Proof.CheckAuth
import Leadertask.Proof.Buckets
import Leadertask.Proof.Escapes
import Leadertask.Proof.Replication
import Leadertask.Proof.GoalNumbers
import Leadertask.Proof.TaskIndexes
import Leadertask.Proof.UserIndexes
import Leadertask.Proof.CreationOrder
import Leadertask.Proof.Blame
import Leadertask.Proof.NotFound
import Leadertask.Proof.Overflow
import Leadertask.Proof.TaskIds
import Leadertask.Proof.Ids
import Leadertask.Proof.Serializable
import Leadertask.Proof.History
import Leadertask.Proof.Ledger
import Leadertask.Proof.Sessions
import Leadertask.Proof.Reads
import Leadertask.Proof.Throughput
import Leadertask.Proof.Delivery
import Leadertask.Proof.Passwords
import Leadertask.Proof.UserSimulation
import Leadertask.Proof.GoalSimulation
import Leadertask.Proof.Integrity
import Leadertask.Proof.Mediation
import Leadertask.Proof.Consistency
import Leadertask.Proof.Holders
import Leadertask.Proof.Missing
import Leadertask.Proof.Access
import Leadertask.Proof.GoalPrivacy
