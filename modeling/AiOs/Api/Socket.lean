import AiOs.Api.Exchange
import AiOs.Process.Launcher
import Mathlib.Data.List.AList

/-! The socket of the daemon: bound where nothing is, in a directory that is closed to others, and
removed only by the server that bound it. Servers come and go at any paths; other processes may
change what stands there between these steps, not within one. -/
namespace AiOs.LocalApi

open Fallible ProcessAdapter

inductive NodeType where
  | directory
  | socket
  | other
  deriving DecidableEq

structure Node where
  nodeType : NodeType
  permissions : UInt32
  identity : FileIdentity
  deriving DecidableEq

abbrev Disk := AList (fun _ : OsString => Node)

inductive BindStep where
  | lookParent
  | createParent
  | lookSocket
  | listen
  | setPermissions
  | identify
  deriving DecidableEq

/-- Which steps of a binding succeed, and what a new entry is like. -/
structure Kernel where
  permits : BindStep → Bool
  born : OsString → Node

/-- The part of `LocalApiError` that a binding answers. -/
inductive BindError where
  | invalidConfig
  | unsafeSocketDirectory
  | socketAlreadyExists
  | io
  deriving DecidableEq, Repr

structure LocalServer where
  socketPath : OsString
  socketIdentity : FileIdentity
  config : ServerConfig

abbrev BindM := Fallible Disk BindError

section bind
variable (k : Kernel)

/-- `symlink_metadata`, with no entry as an answer of its own. -/
def symlinkMetadata (step : BindStep) (path : OsString) : BindM (Option Node) := do
  let disk ← get
  ensure (k.permits step) .io
  pure (disk.lookup path)

def prepareSocketParent (socketPath : OsString) : BindM Unit := do
  let parent ← okOr ((parentDirectory socketPath).filter (· ≠ [])) .invalidConfig
  let found ← symlinkMetadata k .lookParent parent
  match found with
  | some node =>
    ensure (node.nodeType == .directory && node.permissions &&& 0o077 == 0) .unsafeSocketDirectory
  | none => do
    ensure (k.permits .createParent) .io
    modify fun disk => disk.insert parent
      ⟨.directory, (k.born parent).permissions &&& 0o700, (k.born parent).identity⟩

/-- `UnixListener::bind` makes the entry, and only where there is none. -/
def listen (socketPath : OsString) : BindM Unit := do
  let disk ← get
  ensure (k.permits .listen && decide (socketPath ∉ disk)) .io
  modify fun disk => disk.insert socketPath { k.born socketPath with nodeType := .socket }

def setSocketPermissions (socketPath : OsString) : BindM Unit := do
  ensure (k.permits .setPermissions) .io
  modify fun disk => match disk.lookup socketPath with
    | none => disk
    | some node => disk.insert socketPath { node with permissions := 0o600 }

def LocalServer.bind (socketPath : OsString) (maxFrameBytes : Nat) (connectionTimeout : Duration) :
    BindM LocalServer := do
  let config ← okOr (ServerConfig.validate maxFrameBytes connectionTimeout) .invalidConfig
  prepareSocketParent k socketPath
  let found ← symlinkMetadata k .lookSocket socketPath
  ensure found.isNone .socketAlreadyExists
  listen k socketPath
  setSocketPermissions k socketPath
  let found ← symlinkMetadata k .identify socketPath
  let metadata ← okOr found .io
  pure ⟨socketPath, metadata.identity, config⟩

end bind

/-- `Drop::drop`: what stands at the path is removed when it is the socket of this server. -/
def LocalServer.drop (server : LocalServer) (permits : Bool) (disk : Disk) : Disk :=
  match disk.lookup server.socketPath with
  | none => disk
  | some node =>
    if node.nodeType = .socket ∧ node.identity = server.socketIdentity ∧ permits = true then
      disk.erase server.socketPath
    else disk

/-! ### One binding -/

def Extends (disk after : Disk) : Prop :=
  ∀ path node, disk.lookup path = some node → after.lookup path = some node

theorem Extends.refl (disk : Disk) : Extends disk disk := fun _ _ found => found

theorem Extends.trans {first second third : Disk} (earlier : Extends first second)
    (later : Extends second third) : Extends first third :=
  fun path node found => later path node (earlier path node found)

theorem extends_insert {disk : Disk} {path : OsString} (free : disk.lookup path = none)
    (node : Node) : Extends disk (disk.insert path node) := by
  intro other there found
  have apart : other ≠ path := by
    rintro rfl
    rw [free] at found
    cases found
  rw [AList.lookup_insert_ne apart, found]

def Standing (server : LocalServer) (disk : Disk) : Prop :=
  disk.lookup server.socketPath = some ⟨.socket, 0o600, server.socketIdentity⟩

def Closed (disk : Disk) (path : OsString) : Prop :=
  ∃ node, disk.lookup path = some node ∧ node.nodeType = .directory ∧
    node.permissions &&& 0o077 = 0

structure Binds (k : Kernel) (socketPath : OsString) (disk : Disk)
    (out : Except BindError LocalServer × Disk) : Prop where
  extend : Extends disk out.2
  bound : ∀ server, out.1 = .ok server → disk.lookup socketPath = none ∧
    server.socketPath = socketPath ∧ server.socketIdentity = (k.born socketPath).identity ∧
    Standing server out.2 ∧
    ∃ parent, parentDirectory socketPath = some parent ∧ Closed out.2 parent

section spec
variable {k : Kernel} {socketPath : OsString} {disk : Disk}

theorem closed_born (permissions : UInt32) : permissions &&& 0o700 &&& 0o077 = 0 := by
  have apart : (0o700 : UInt32) &&& 0o077 = 0 := by decide
  rw [UInt32.and_assoc, apart, UInt32.and_zero]

theorem symlinkMetadata_rule {α : Type} {f : Option Node → BindM α}
    {P : Except BindError α × Disk → Prop} {step : BindStep} {path : OsString}
    (failed : P (.error .io, disk)) (looked : P (exec (f (disk.lookup path)) disk)) :
    P (exec (symlinkMetadata k step path >>= f) disk) := by
  unfold symlinkMetadata
  simp only [bind_assoc]
  rw [exec_bind_ok (exec_get _)]
  apply ensure_rule (P := P)
  · exact fun _ => failed
  · exact fun _ => looked

/-- The parent is there and closed, or it is made so, or nothing happens. -/
theorem prepareSocketParent_rule {α : Type} {f : Unit → BindM α}
    {P : Except BindError α × Disk → Prop} (failed : ∀ e, P (.error e, disk))
    (ready : ∀ parent after, parentDirectory socketPath = some parent → Extends disk after →
      Closed after parent → P (exec (f ()) after)) :
    P (exec (prepareSocketParent k socketPath >>= f) disk) := by
  unfold prepareSocketParent
  simp only [bind_assoc]
  apply okOr_rule (P := P) (fun _ => failed _)
  intro parent found
  have parent_eq := (Option.filter_eq_some_iff.mp found).1
  apply symlinkMetadata_rule (P := P) (failed _)
  split
  · rename_i node there
    apply ensure_rule (P := P) (fun _ => failed _)
    intro safe
    simp only [Bool.and_eq_true, beq_iff_eq] at safe
    exact ready parent disk parent_eq (.refl disk) ⟨node, there, safe.1, safe.2⟩
  · rename_i free
    simp only [bind_assoc]
    apply ensure_rule (P := P) (fun _ => failed _)
    intro _
    rw [exec_bind_ok (exec_modify _ _)]
    exact ready parent _ parent_eq (extends_insert free _)
      ⟨_, AList.lookup_insert _, rfl, closed_born _⟩

theorem bind_binds (maxFrameBytes : Nat) (connectionTimeout : Duration) (disk : Disk) :
    Binds k socketPath disk
      (exec (LocalServer.bind k socketPath maxFrameBytes connectionTimeout) disk) := by
  have stops : ∀ e after, Extends disk after → Binds k socketPath disk (.error e, after) :=
    fun e after extend => ⟨extend, nofun⟩
  unfold LocalServer.bind
  apply okOr_rule (P := Binds _ _ _) (fun _ => stops _ _ (.refl disk))
  intro config _
  apply prepareSocketParent_rule (P := Binds _ _ _) (fun e => stops e _ (.refl disk))
  intro parent ready parent_eq extend closed
  apply symlinkMetadata_rule (P := Binds _ _ _) (stops _ _ extend)
  apply ensure_rule (P := Binds _ _ _) (fun _ => stops _ _ extend)
  intro vacant
  have free : ready.lookup socketPath = none := by simpa using vacant
  unfold listen setSocketPermissions
  simp only [bind_assoc]
  rw [exec_bind_ok (exec_get _)]
  apply ensure_rule (P := Binds _ _ _) (fun _ => stops _ _ extend)
  intro _
  rw [exec_bind_ok (exec_modify _ _)]
  have listening := extend.trans
    (extends_insert free { k.born socketPath with nodeType := .socket })
  apply ensure_rule (P := Binds _ _ _) (fun _ => stops _ _ listening)
  intro _
  rw [exec_bind_ok (exec_modify _ _), AList.lookup_insert]
  dsimp only
  rw [AList.insert_insert]
  have bound := extends_insert free ⟨.socket, 0o600, (k.born socketPath).identity⟩
  apply symlinkMetadata_rule (P := Binds _ _ _) (stops _ _ (extend.trans bound))
  rw [AList.lookup_insert, exec_bind_ok (exec_okOr_some _ _ _)]
  refine ⟨extend.trans bound, ?_⟩
  rintro server ⟨⟩
  refine ⟨?_, rfl, rfl, AList.lookup_insert _, parent, parent_eq, ?_⟩
  · by_contra there
    obtain ⟨node, found⟩ := Option.ne_none_iff_exists'.mp there
    rw [extend socketPath node found] at free
    cases free
  · obtain ⟨node, found, safe⟩ := closed
    exact ⟨node, bound parent node found, safe⟩

end spec

/-! ### Servers that come and go -/

structure Sockets where
  disk : Disk
  servers : List LocalServer

/-- No new entry has the identity of a socket that a server still holds open. -/
def Fresh (k : Kernel) (servers : List LocalServer) : Prop :=
  ∀ path, ∀ server ∈ servers, (k.born path).identity ≠ server.socketIdentity

/-- What may happen; with `meddling`, others may also move, replace or remove a server's socket. A
server that is killed leaves it. -/
inductive SocketStep (meddling : Prop) : Sockets → Sockets → Prop where
  | bound {s : Sockets} (k : Kernel) (socketPath : OsString) (maxFrameBytes : Nat)
      (connectionTimeout : Duration) {server : LocalServer} {after : Disk}
      (fresh : Fresh k s.servers)
      (ran : exec (LocalServer.bind k socketPath maxFrameBytes connectionTimeout) s.disk =
        (.ok server, after)) : SocketStep meddling s ⟨after, server :: s.servers⟩
  | refused {s : Sockets} (k : Kernel) (socketPath : OsString) (maxFrameBytes : Nat)
      (connectionTimeout : Duration) {e : BindError} {after : Disk}
      (ran : exec (LocalServer.bind k socketPath maxFrameBytes connectionTimeout) s.disk =
        (.error e, after)) : SocketStep meddling s ⟨after, s.servers⟩
  | dropped {s : Sockets} {earlier later : List LocalServer} {server : LocalServer} (permits : Bool)
      (live : s.servers = earlier ++ server :: later) :
      SocketStep meddling s ⟨server.drop permits s.disk, earlier ++ later⟩
  | killed {s : Sockets} {earlier later : List LocalServer} {server : LocalServer}
      (live : s.servers = earlier ++ server :: later) :
      SocketStep meddling s ⟨s.disk, earlier ++ later⟩
  | foreign {s : Sockets} (after : Disk) (spared : meddling ∨ ∀ server ∈ s.servers,
      after.lookup server.socketPath = s.disk.lookup server.socketPath) :
      SocketStep meddling s ⟨after, s.servers⟩

inductive SocketsReached (meddling : Prop) : Sockets → Prop where
  | start (disk : Disk) : SocketsReached meddling ⟨disk, []⟩
  | step {s s' : Sockets} (reached : SocketsReached meddling s)
      (step : SocketStep meddling s s') : SocketsReached meddling s'

theorem drop_lookup {server : LocalServer} {permits : Bool} {disk : Disk} {path : OsString}
    {node : Node} (found : disk.lookup path = some node) :
    (server.drop permits disk).lookup path = some node ∨ path = server.socketPath ∧
      node.nodeType = .socket ∧ node.identity = server.socketIdentity := by
  unfold LocalServer.drop
  split
  · exact .inl found
  · rename_i own there
    split
    · rename_i mine
      by_cases here : path = server.socketPath
      · rw [here, there] at found
        cases found
        exact .inr ⟨here, mine.1, mine.2.1⟩
      · rw [AList.lookup_erase_ne here]
        exact .inl found
    · exact .inl found

/-- The servers of a run without meddling: each has its own path, and its socket is there. -/
structure Exclusive (s : Sockets) : Prop where
  apart : (s.servers.map LocalServer.socketPath).Nodup
  standing : ∀ server ∈ s.servers, Standing server s.disk

section run
variable {s s' : Sockets}

theorem step_exclusive (step : SocketStep False s s') (before : Exclusive s) : Exclusive s' := by
  cases step with
  | bound k socketPath maxFrameBytes connectionTimeout fresh ran =>
    rename_i server after
    have binds := @bind_binds k socketPath maxFrameBytes connectionTimeout s.disk
    rw [ran] at binds
    obtain ⟨free, same, _, stands, _⟩ := binds.bound server rfl
    constructor
    · refine List.nodup_cons.mpr ⟨?_, before.apart⟩
      intro taken
      obtain ⟨other, member, path⟩ := List.mem_map.mp taken
      have there := before.standing other member
      rw [Standing, path, same, free] at there
      cases there
    · intro other member
      rcases List.mem_cons.mp member with rfl | member
      · exact stands
      · exact binds.extend _ _ (before.standing other member)
  | refused k socketPath maxFrameBytes connectionTimeout ran =>
    have binds := @bind_binds k socketPath maxFrameBytes connectionTimeout s.disk
    rw [ran] at binds
    exact ⟨before.apart, fun other member => binds.extend _ _ (before.standing other member)⟩
  | dropped permits live =>
    rename_i earlier later server
    have apart := before.apart
    rw [live, List.map_append, List.map_cons, List.nodup_middle, List.nodup_cons,
      ← List.map_append] at apart
    refine ⟨apart.2, ?_⟩
    intro other member
    have there := before.standing other (by
      rw [live]
      rcases List.mem_append.mp member with inside | inside
      · exact List.mem_append_left _ inside
      · exact List.mem_append_right _ (List.mem_cons_of_mem _ inside))
    rcases drop_lookup there with kept | ⟨path, _⟩
    · exact kept
    · exact absurd (path ▸ List.mem_map_of_mem member) apart.1
  | killed live =>
    rename_i earlier later server
    have fewer : (earlier ++ later).Sublist s.servers := by
      rw [live]
      exact (List.Sublist.refl earlier).append (List.sublist_cons_self server later)
    exact ⟨before.apart.sublist (fewer.map _),
      fun other member => before.standing other (fewer.subset member)⟩
  | foreign after spared =>
    refine ⟨before.apart, ?_⟩
    intro other member
    have same := spared.resolve_left id other member
    exact same.trans (before.standing other member)

theorem reached_exclusive (reached : SocketsReached False s) : Exclusive s := by
  induction reached with
  | start disk => exact ⟨List.nodup_nil, by simp⟩
  | step _ step ih => exact step_exclusive step ih

theorem step_identities {meddling : Prop} (step : SocketStep meddling s s')
    (before : (s.servers.map LocalServer.socketIdentity).Nodup) :
    (s'.servers.map LocalServer.socketIdentity).Nodup := by
  cases step with
  | bound k socketPath maxFrameBytes connectionTimeout fresh ran =>
    rename_i server after
    have binds := @bind_binds k socketPath maxFrameBytes connectionTimeout s.disk
    rw [ran] at binds
    obtain ⟨_, _, identity, _⟩ := binds.bound server rfl
    refine List.nodup_cons.mpr ⟨?_, before⟩
    intro taken
    obtain ⟨other, member, same⟩ := List.mem_map.mp taken
    exact fresh socketPath other member (identity.symm.trans same.symm)
  | refused => exact before
  | dropped permits live =>
    rename_i earlier later server
    rw [live] at before
    exact before.sublist (((List.Sublist.refl earlier).append
      (List.sublist_cons_self server later)).map _)
  | killed live =>
    rename_i earlier later server
    rw [live] at before
    exact before.sublist (((List.Sublist.refl earlier).append
      (List.sublist_cons_self server later)).map _)
  | foreign after spared => exact before

theorem reached_identities {meddling : Prop} (reached : SocketsReached meddling s) :
    (s.servers.map LocalServer.socketIdentity).Nodup := by
  induction reached with
  | start disk => exact List.nodup_nil
  | step _ step ih => exact step_identities step ih

/-- While others leave the sockets of servers alone, each server has its own path, its socket stays
there for its owner only, and no second server can be bound there. -/
theorem one_server_each_path (reached : SocketsReached False s) :
    (s.servers.map LocalServer.socketPath).Nodup ∧
    (∀ server ∈ s.servers, Standing server s.disk) ∧
    ∀ server ∈ s.servers, ∀ k maxFrameBytes connectionTimeout, ∃ e after,
      exec (LocalServer.bind k server.socketPath maxFrameBytes connectionTimeout) s.disk =
        (.error e, after) ∧ Extends s.disk after := by
  have exclusive := reached_exclusive reached
  refine ⟨exclusive.apart, exclusive.standing, ?_⟩
  intro server member k maxFrameBytes connectionTimeout
  have binds := @bind_binds k server.socketPath maxFrameBytes connectionTimeout s.disk
  rcases ran : exec (LocalServer.bind k server.socketPath maxFrameBytes connectionTimeout) s.disk
    with ⟨answer, after⟩
  rw [ran] at binds
  cases answer with
  | error e => exact ⟨e, after, rfl, binds.extend⟩
  | ok second =>
    have there := exclusive.standing server member
    rw [Standing, (binds.bound second rfl).1] at there
    cases there

/-- Whatever others do to the paths: a binding changes nothing that is there, and a server that goes
removes nothing but a socket that is its own and no other server's. -/
theorem sockets_spared {meddling : Prop} (reached : SocketsReached meddling s) :
    (∀ k socketPath maxFrameBytes connectionTimeout, Binds k socketPath s.disk
      (exec (LocalServer.bind k socketPath maxFrameBytes connectionTimeout) s.disk)) ∧
    ∀ earlier server later, s.servers = earlier ++ server :: later → ∀ permits path node,
      s.disk.lookup path = some node → (server.drop permits s.disk).lookup path = some node ∨
        path = server.socketPath ∧ node.nodeType = .socket ∧
          node.identity = server.socketIdentity ∧
            ∀ other ∈ earlier ++ later, node.identity ≠ other.socketIdentity := by
  constructor
  · exact fun k socketPath maxFrameBytes connectionTimeout =>
      bind_binds maxFrameBytes connectionTimeout s.disk
  intro earlier server later live permits path node found
  rcases drop_lookup found with kept | ⟨here, socket, mine⟩
  · exact .inl kept
  have apart := reached_identities reached
  rw [live, List.map_append, List.map_cons, List.nodup_middle, List.nodup_cons,
    ← List.map_append] at apart
  refine .inr ⟨here, socket, mine, ?_⟩
  intro other member same
  apply apart.1
  rw [← mine, same]
  exact List.mem_map_of_mem member

end run

namespace Sample

def kernel (device : UInt64) : Kernel where
  permits _ := true
  born path := ⟨.other, 0o755, ⟨device, UInt64.ofNat path.length⟩⟩

def daemonPath : OsString := osStr "/run/aios/daemon.sock"

def boundFirst : Except BindError LocalServer × Disk :=
  exec (LocalServer.bind (kernel 1) daemonPath defaultMaxFrameBytes (Duration.fromSecs 5)) ∅

def daemon : LocalServer := ⟨daemonPath, ⟨1, 21⟩, .default⟩

theorem boundFirst_ok : boundFirst.1 = .ok daemon := by rfl

theorem daemon_reached (meddling : Prop) : SocketsReached meddling ⟨boundFirst.2, [daemon]⟩ :=
  .step (.start ∅) (.bound (kernel 1) daemonPath defaultMaxFrameBytes (Duration.fromSecs 5)
    (fun _ _ member => by cases member) (Prod.ext boundFirst_ok rfl))

/-- The second daemon at the path of the first one. -/
theorem one_server_each_path_second :
    Standing daemon boundFirst.2 ∧ ∃ e after,
      exec (LocalServer.bind (kernel 2) daemonPath defaultMaxFrameBytes (Duration.fromSecs 5))
        boundFirst.2 = (.error e, after) ∧ Extends boundFirst.2 after := by
  obtain ⟨_, standing, second⟩ := one_server_each_path (daemon_reached False)
  exact ⟨standing daemon List.mem_cons_self,
    second daemon List.mem_cons_self (kernel 2) defaultMaxFrameBytes (Duration.fromSecs 5)⟩

/-- A directory that has taken the place of the socket stays. -/
theorem sockets_spared_replaced :
    (daemon.drop true (boundFirst.2.insert daemonPath ⟨.directory, 0o700, ⟨7, 7⟩⟩)).lookup
      daemonPath = some ⟨.directory, 0o700, ⟨7, 7⟩⟩ := by
  have meddled : SocketsReached True
      ⟨boundFirst.2.insert daemonPath ⟨.directory, 0o700, ⟨7, 7⟩⟩, [daemon]⟩ :=
    .step (daemon_reached True) (.foreign _ (.inl trivial))
  rcases (sockets_spared meddled).2 [] daemon [] rfl true daemonPath _ (AList.lookup_insert _)
    with kept | ⟨_, socket, _⟩
  · exact kept
  · cases socket

end Sample

end AiOs.LocalApi
