import Leadertask.Lib.Replica
import Leadertask.Model.Store

/-!
# The Postgres cluster

The stores when Postgres runs on several hosts. A statement for `kMaster` runs on the master,
which writes it to the log; one for `kSlave` runs on some replica, and on the master only
where there is none. A replica holds a prefix of the log, and how it catches up is up to the
environment.
-/

namespace Leadertask

/-- A statement of the write log, with what the environment added to it on the master. -/
structure LogRecord where
  input : Input
  stmt : Sql

def LogRecord.apply (r : LogRecord) (pg : Postgres) : Postgres := (pg.exec r.input r.stmt).2

/-- Both stores and the handlers' `rate_limits` maps, with Postgres replicated. -/
structure Cluster where
  pg : Replicated LogRecord Postgres
  goals : GoalsCollection
  rateLimits : Endpoint → RateLimits

/-- What the environment adds to an operation: also which replicas replay their next record
before it, in order, and which one serves it. -/
structure ClusterInput extends Input where
  replayed : List ℕ := []
  replica : ℕ := 0

/-- The statement changes rows. -/
def Sql.writes : Sql → Bool
  | .insertUser .. => true
  | .insertTask .. => true
  | .updateTaskStatus .. => true
  | _ => false

namespace Cluster

def master (c : Cluster) : Postgres := c.pg.master LogRecord.apply

/-- What the master and Mongo hold. -/
def world (c : Cluster) : World := ⟨c.master, c.goals, c.rateLimits⟩

/-- The replicas replay before an operation. -/
def catchUp (i : ClusterInput) (c : Cluster) : Cluster :=
  { c with pg := i.replayed.foldl Replicated.advance c.pg }

/-- What the host holds that serves a read. -/
def seen (i : ClusterInput) (c : Cluster) : Postgres :=
  (c.catchUp i).pg.seen LogRecord.apply i.replica

/-- How much of the log that host has replayed. -/
def position (i : ClusterInput) (c : Cluster) : ℕ := (c.catchUp i).pg.position i.replica

/-- A statement on the master; a write that goes through is logged. -/
def executeOnMaster (i : Input) (stmt : Sql) (c : Cluster) : Except Exn stmt.Ret × Cluster :=
  match (c.master.exec i stmt).1 with
  | .ok a => (.ok a, if stmt.writes then { c with pg := c.pg.write ⟨i, stmt⟩ } else c)
  | .error e => (.error e, c)

/-- One operation on the cluster. -/
def exec (i : ClusterInput) (o : Op) (c : Cluster) : Except Exn o.Ret × Cluster :=
  match o with
  | .execute host stmt =>
    if i.fault (.execute host stmt) then (.error .storeFailure, c.catchUp i)
    else match host with
      | .kMaster => (c.catchUp i).executeOnMaster i.toInput stmt
      | .kSlave =>
        if (c.catchUp i).pg.replicas = [] then (c.catchUp i).executeOnMaster i.toInput stmt
        -- a replica is read only
        else if stmt.writes then (.error .storeFailure, c.catchUp i)
        else (((c.seen i).exec i.toInput stmt).1, c.catchUp i)
  | o =>
    ((World.exec i.toInput o c.world).1,
      { c.catchUp i with
        goals := (World.exec i.toInput o c.world).2.goals
        rateLimits := (World.exec i.toInput o c.world).2.rateLimits })

end Cluster

end Leadertask
