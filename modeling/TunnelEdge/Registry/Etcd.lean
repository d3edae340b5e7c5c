import TunnelEdge.Lib.LeaseStore
import TunnelEdge.Domain
/-!
# The etcd coordinator

`EtcdCoordinator` (`internal/registry/etcd_coordinator.go`): the lease of a
tunnel is a JSON value under the tunnel's key, attached to an etcd lease that
carries the TTL; `etcdLeaseOf` remembers, per registry instance, which etcd
lease backs which tunnel lease.

A call is a sequence of etcd requests with other parties' requests between
any two of them, so `AcquireLease`, `RenewLease` and `ReleaseLease` are
machines: a program counter for each request or locked section, and one step
that performs it. JSON values are kept decoded: only this code writes the keys,
and what it marshals it can unmarshal.
-/

namespace TunnelEdge.Registry

open GoLib

def etcdKeyPrefixLeases : String := "/tunneledge/leases/"

/-- `etcdKeyPrefixLeases + tunnelID` -/
def leaseKey (tunnelID : String) : String := etcdKeyPrefixLeases ++ tunnelID

theorem leaseKey_inj {t t' : String} (h : leaseKey t = leaseKey t') : t = t' := by
  have h := congrArg String.toList h
  simp only [leaseKey, String.toList_append, List.append_cancel_left_eq] at h
  exact String.toList_inj.1 h

/-- `leaseMeta`, the JSON payload of a lease key. -/
structure LeaseMeta where
  leaseID : String
  tunnelID : String
  relayID : String
  expiresAt : Time
  version : Int
  etcdLease : Nat
deriving DecidableEq, Repr

def LeaseMeta.toLease (v : LeaseMeta) : Lease := ⟨v.leaseID, v.tunnelID, v.relayID, v.expiresAt, v.version⟩

abbrev Etcd := LeaseStore String LeaseMeta

/-- One registry instance: its `etcdLeaseOf`, and how many watch events `watchLoop` has handled. -/
structure EtcdCoordinator where
  etcdLeaseOf : GoMap String Nat := ∅
  watched : Nat := 0

/-! ## Requests -/

/-- What the network does to one request: it is answered, it never reaches
etcd, or it is carried out and the answer is lost. -/
inductive Net
  | ok
  | lost (err : String)
  | replyLost (err : String)

def Net.send {α : Type} (net : Net) (e : Etcd) (f : Etcd → Except String (Etcd × α)) : Etcd × Except String α :=
  match net, f e with
  | .ok, .ok (e', a) => (e', .ok a)
  | .ok, .error err => (e, .error err)
  | .lost err, _ => (e, .error err)
  | .replyLost err, .ok (e', _) => (e', .error err)
  | .replyLost err, .error _ => (e, .error err)

theorem Net.send_cases {α : Type} (net : Net) (e : Etcd) (f : Etcd → Except String (Etcd × α)) :
    (∃ err, net.send e f = (e, .error err)) ∨
    ∃ e' a, f e = .ok (e', a) ∧ (net.send e f = (e', .ok a) ∨ ∃ err, net.send e f = (e', .error err)) := by
  cases hf : f e with
  | error err => cases net <;> simp [Net.send, hf]
  | ok r =>
    obtain ⟨e', a⟩ := r
    cases net <;> simp [Net.send, hf]

/-- `max(int64(req.TTL.Seconds()), 1)`, the TTL etcd is asked for. -/
def ttlSec (ttl : Duration) : Int := max (ttl.tdiv second) 1

def grantRequest (now : Time) (ttl : Duration) (e : Etcd) : Except String (Etcd × Nat) :=
  .ok (e.grant now (ttlSec ttl * second))

/-! ## AcquireLease -/

/-- Where an `AcquireLease` call stands; each constructor but the last is the request about to be sent. -/
inductive AcquirePc
  | grant
  | txn (lease : LeaseMeta)
  | revokeTxnFailed (l : Nat) (err : String)
  | revokeOwn (l : Nat) (existing : LeaseMeta)
  | regrant (existing : LeaseMeta)
  | put (existing : LeaseMeta)
  | revokePutFailed (l : Nat) (err : String)
  | record (lease : LeaseMeta)
  | done (r : Except Status Lease)
deriving DecidableEq

def AcquirePc.start (req : LeaseRequest) : AcquirePc :=
  if req.tunnelID = "" ∨ req.relayID = "" then
    .done (.error ⟨.invalidArgument, "tunnel_id and relay_id are required"⟩)
  else .grant

structure Outcome (P : Type) where
  etcd : Etcd
  inst : EtcdCoordinator
  pc : P

def acquireStep (req : LeaseRequest) (fresh : String) (now : Time) (net : Net) (e : Etcd) (i : EtcdCoordinator) :
    AcquirePc → Outcome AcquirePc
  | .grant =>
    match net.send e (grantRequest now req.ttl) with
    | (e, .error err) => ⟨e, i, .done (.error ⟨.unavailable, "etcd grant: " ++ err⟩)⟩
    | (e, .ok l) => ⟨e, i, .txn ⟨fresh, req.tunnelID, req.relayID, now + req.ttl, 1, l⟩⟩
  | .txn lease =>
    match net.send e (·.createOrGet (leaseKey req.tunnelID) lease lease.etcdLease) with
    | (e, .error err) => ⟨e, i, .revokeTxnFailed lease.etcdLease err⟩
    | (e, .ok none) => ⟨e, i, .record lease⟩
    | (e, .ok (some existing)) => ⟨e, i, .revokeOwn lease.etcdLease existing⟩
  | .revokeTxnFailed l err =>
    ⟨(net.send e (·.revoke l)).1, i, .done (.error ⟨.unavailable, "etcd txn: " ++ err⟩)⟩
  | .revokeOwn l existing =>
    let e := (net.send e (·.revoke l)).1
    if existing.relayID = req.relayID then
      ⟨e, i, .regrant { existing with version := existing.version + 1, expiresAt := now + req.ttl }⟩
    else
      ⟨e, i, .done (.error ⟨.alreadyExists,
        "tunnel " ++ req.tunnelID ++ " already leased by relay " ++ existing.relayID⟩)⟩
  | .regrant existing =>
    match net.send e (grantRequest now req.ttl) with
    | (e, .error err) => ⟨e, i, .done (.error ⟨.unavailable, "etcd grant: " ++ err⟩)⟩
    | (e, .ok l) => ⟨e, i, .put { existing with etcdLease := l }⟩
  | .put existing =>
    match net.send e (·.put (leaseKey req.tunnelID) existing existing.etcdLease) with
    | (e, .error err) => ⟨e, i, .revokePutFailed existing.etcdLease err⟩
    | (e, .ok ()) => ⟨e, i, .record existing⟩
  | .revokePutFailed l err =>
    ⟨(net.send e (·.revoke l)).1, i, .done (.error ⟨.unavailable, "etcd put: " ++ err⟩)⟩
  | .record lease =>
    ⟨e, { i with etcdLeaseOf := i.etcdLeaseOf.insert lease.leaseID lease.etcdLease }, .done (.ok lease.toLease)⟩
  | .done r => ⟨e, i, .done r⟩

/-! ## ReleaseLease and RenewLease -/

inductive ReleasePc
  | take
  | revoke (l : Nat)
  | done (r : Except Status Lease)
deriving DecidableEq

def ReleasePc.start (leaseID : String) : ReleasePc :=
  if leaseID = "" then .done (.error ⟨.invalidArgument, "lease_id is required"⟩) else .take

/-- A failed revoke is only logged; the reply carries nothing but the id. -/
def releaseStep (leaseID : String) (net : Net) (e : Etcd) (i : EtcdCoordinator) : ReleasePc → Outcome ReleasePc
  | .take =>
    match i.etcdLeaseOf.lookup leaseID with
    | none => ⟨e, i, .done (.error ⟨.notFound, "lease " ++ leaseID ++ " not found"⟩)⟩
    | some l => ⟨e, { i with etcdLeaseOf := i.etcdLeaseOf.erase leaseID }, .revoke l⟩
  | .revoke l => ⟨(net.send e (·.revoke l)).1, i, .done (.ok ⟨leaseID, "", "", 0, 0⟩)⟩
  | .done r => ⟨e, i, .done r⟩

inductive RenewPc
  | find
  | keepAlive (l : Nat)
  | get (l : Nat)
  | put (l : Nat) (key : String) (lease : LeaseMeta)
  | done (r : Except Status Lease)
deriving DecidableEq

def RenewPc.start (leaseID : String) : RenewPc :=
  if leaseID = "" then .done (.error ⟨.invalidArgument, "lease_id is required"⟩) else .find

/-- The read after the keep-alive names the bare prefix, without `WithPrefix`. -/
def renewStep (leaseID : String) (ttl : Duration) (now : Time) (net : Net) (e : Etcd) (i : EtcdCoordinator) :
    RenewPc → Outcome RenewPc
  | .find =>
    match i.etcdLeaseOf.lookup leaseID with
    | none => ⟨e, i, .done (.error ⟨.notFound, "lease " ++ leaseID ++ " not found"⟩)⟩
    | some l => ⟨e, i, .keepAlive l⟩
  | .keepAlive l =>
    match net.send e (·.keepAliveOnce now l) with
    | (e, .error err) => ⟨e, i, .done (.error ⟨.unavailable, "keepalive: " ++ err⟩)⟩
    | (e, .ok ()) => ⟨e, i, .get l⟩
  | .get l =>
    match net.send e (fun e => .ok (e, e.get etcdKeyPrefixLeases)) with
    | (e, .error err) => ⟨e, i, .done (.error ⟨.unavailable, "etcd get: " ++ err⟩)⟩
    | (e, .ok kvs) =>
      match kvs.find? fun kv => kv.2.leaseID = leaseID with
      | some (key, lease) =>
        ⟨e, i, .put l key { lease with expiresAt := now + ttl, version := lease.version + 1 }⟩
      | none => ⟨e, i, .done (.error ⟨.notFound, "lease " ++ leaseID ++ " not found after keepalive"⟩)⟩
  | .put l key lease => ⟨(net.send e (·.put key lease l)).1, i, .done (.ok lease.toLease)⟩
  | .done r => ⟨e, i, .done r⟩

/-! ## Calls -/

inductive Invocation
  | acquire (req : LeaseRequest) (fresh : String)
  | release (leaseID : String)
  | renew (leaseID : String) (ttl : Duration)

inductive Proc
  | acquire (req : LeaseRequest) (fresh : String) (pc : AcquirePc)
  | release (leaseID : String) (pc : ReleasePc)
  | renew (leaseID : String) (ttl : Duration) (pc : RenewPc)
deriving DecidableEq

def Invocation.start : Invocation → Proc
  | .acquire req fresh => .acquire req fresh (.start req)
  | .release id => .release id (.start id)
  | .renew id ttl => .renew id ttl (.start id)

def Outcome.map {P Q : Type} (f : P → Q) (o : Outcome P) : Outcome Q := ⟨o.etcd, o.inst, f o.pc⟩

/-- The next request or locked section of a call. -/
def Proc.step (now : Time) (net : Net) (e : Etcd) (i : EtcdCoordinator) : Proc → Outcome Proc
  | .acquire req fresh pc => (acquireStep req fresh now net e i pc).map (.acquire req fresh)
  | .release id pc => (releaseStep id net e i pc).map (.release id)
  | .renew id ttl pc => (renewStep id ttl now net e i pc).map (.renew id ttl)

def Proc.result : Proc → Option (Except Status Lease)
  | .acquire _ _ (.done r) | .release _ (.done r) | .renew _ _ (.done r) => some r
  | _ => none

/-! ## CurrentLease and the watch -/

def currentLeaseEtcd (now : Time) (tunnelID : String) (e : Etcd) : Option Lease :=
  match e.get (leaseKey tunnelID) with
  | [] => none
  | (_, lease) :: _ => if lease.expiresAt < now then none else some lease.toLease

/-- `handleEtcdEvent` on a lease key: a put is remembered in `etcdLeaseOf`, a
delete is only published to the subscribers. -/
def EtcdCoordinator.handleEtcdEvent (i : EtcdCoordinator) : WatchEvent String LeaseMeta → EtcdCoordinator
  | .put _ lease => { i with etcdLeaseOf := i.etcdLeaseOf.insert lease.leaseID lease.etcdLease }
  | .delete _ => i

/-- One round of `watchLoop`: the next event of the watch, if there is one. -/
def EtcdCoordinator.watch (i : EtcdCoordinator) (e : Etcd) : Option EtcdCoordinator :=
  e.events[i.watched]?.map fun ev => { i.handleEtcdEvent ev with watched := i.watched + 1 }

end TunnelEdge.Registry
