import Mbstf.Core.Runs

/-!
# Listen addresses

Each section of the configuration for an interface resolves to IPv4 and IPv6 nodes, and the
context makes a server for the first node of each family, if no server has its address yet.
The two blocks of the code are the same, down to the node: the second one takes the IPv4 node
too.
-/

namespace Mbstf.Session

open Mbstf.Runs

/-! ## Addresses and servers -/

/-- `ogs_sockaddr_t`, as far as `ogs_sockaddr_is_equal` compares it. -/
inductive SockAddr where
  | inet (sinAddr : BitVec 32) (sinPort : BitVec 16)
  | inet6 (sin6Addr : BitVec 128) (sin6Port : BitVec 16)
  deriving DecidableEq

/-- An `ogs_socknode_t` of a list for `AF_INET`. -/
structure InetNode where
  sinAddr : BitVec 32
  sinPort : BitVec 16

/-- An `ogs_socknode_t` of a list for `AF_INET6`. -/
structure Inet6Node where
  sin6Addr : BitVec 128
  sin6Port : BitVec 16

/-- `node->addr`. -/
def InetNode.addr (node : InetNode) : SockAddr := .inet node.sinAddr node.sinPort

def Inet6Node.addr (node : Inet6Node) : SockAddr := .inet6 node.sin6Addr node.sin6Port

/-- `Open5GSSBIServer`, with the address of its node. -/
structure Open5GSSBIServer where
  addr : SockAddr
  option : Bool
  advertise : List SockAddr

/-- `Open5GSSBIServer(ogs_socknode_t*, ogs_sockopt_t*)`, which has no result for a null
pointer. -/
def Open5GSSBIServer.new (node : Option SockAddr) (option : Bool) : Option Open5GSSBIServer :=
  node.map fun addr => ⟨addr, option, []⟩

/-- `ogsSBIServerAdvertise(ogs_sockaddr_t*)`; `noIpv4` is the parameter of the application. -/
def Open5GSSBIServer.ogsSBIServerAdvertise (server : Open5GSSBIServer) (noIpv4 : Bool)
    (addr : List SockAddr) : Open5GSSBIServer :=
  if addr ≠ [] ∧ noIpv4 = false then { server with advertise := addr } else server

/-- `Context::ServerType`. -/
inductive ServerType where
  | distributionSession
  | objectPush
  | rtp
  deriving DecidableEq

/-- `Context::servers`. -/
abbrev Servers := ServerType → List Open5GSSBIServer

/-- One section of the configuration, with the nodes that its names and its device resolve to
and the addresses it advertises. -/
structure Configuration where
  pcKey : String
  list : List InetNode
  list6 : List Inet6Node
  advertise : List SockAddr
  isOption : Bool
  hkey : pcKey = "distSessionAPI" ∨ pcKey = "httpPushIngest" ∨ pcKey = "rtpIngest"

/-- The type of server that a key stands for. -/
def serverType (pcKey : String) : Option ServerType :=
  if pcKey = "distSessionAPI" then some .distributionSession
  else if pcKey = "httpPushIngest" then some .objectPush
  else if pcKey = "rtpIngest" then some .rtp
  else none

theorem Configuration.exists_serverType (configuration : Configuration) :
    ∃ type, serverType configuration.pcKey = some type := by
  rcases configuration.hkey with hkey | hkey | hkey
  · exact ⟨.distributionSession, by rw [hkey]; rfl⟩
  · exact ⟨.objectPush, by rw [hkey]; rfl⟩
  · exact ⟨.rtp, by rw [hkey]; rfl⟩

namespace Servers

/-- No servers yet. -/
def empty : Servers := fun _ => []

/-- All servers, in the order of the two loops of `checkForAddr`. -/
def all (servers : Servers) : List Open5GSSBIServer :=
  servers .distributionSession ++ (servers .objectPush ++ servers .rtp)

/-- The addresses of all servers. -/
def addrs (servers : Servers) : List SockAddr := servers.all.map Open5GSSBIServer.addr

/-- `push_back` on the list for a key. -/
def pushBack (servers : Servers) (pcKey : String) (server : Open5GSSBIServer) : Servers :=
  match serverType pcKey with
  | some type => Function.update servers type (servers type ++ [server])
  | none => servers

/-- The loops of `checkForAddr(ogs_socknode_t*)`: a null pointer is dereferenced for the first
server there is. -/
def checkServers (node : Option SockAddr) : List Open5GSSBIServer → Option Bool
  | [] => some false
  | srv :: srvs => node.bind fun addr =>
      if addr = srv.addr then some true else checkServers node srvs

/-- `checkForAddr(ogs_socknode_t*)`. -/
def checkForAddr (servers : Servers) (node : Option SockAddr) : Option Bool :=
  checkServers node servers.all

/-- The block for one family in `parseConfiguration`. -/
def addServer (noIpv4 : Bool) (configuration : Configuration) (node : Option SockAddr)
    (servers : Servers) : Option Servers := do
  if ← servers.checkForAddr node then return servers
  let newServer ← Open5GSSBIServer.new node configuration.isOption
  return servers.pushBack configuration.pcKey
    (newServer.ogsSBIServerAdvertise noIpv4 configuration.advertise)

/-- `parseConfiguration(std::string&, Open5GSYamlIter&)` from the first node on; there is no
result when a null pointer is dereferenced. -/
def parseConfiguration (noIpv4 : Bool) (servers : Servers) (configuration : Configuration) :
    Option Servers := do
  let node := configuration.list.head?.map InetNode.addr
  let added ← if node.isSome then servers.addServer noIpv4 configuration node else some servers
  let node6 := configuration.list6.head?.map Inet6Node.addr
  -- The block for `node6` checks `node` and makes a server for it.
  if node6.isSome then added.addServer noIpv4 configuration node else some added

/-! ## One block -/

theorem checkServers_some (addr : SockAddr) (srvs : List Open5GSSBIServer) :
    checkServers (some addr) srvs = some (decide (addr ∈ srvs.map Open5GSSBIServer.addr)) := by
  induction srvs with
  | nil => rfl
  | cons srv srvs ih =>
      rw [checkServers, Option.bind_some, ih]
      by_cases hsame : addr = srv.addr
      · simp [hsame]
      · simp [hsame]

variable {servers next : Servers}

theorem addrs_pushBack {pcKey : String} {type : ServerType} (hkey : serverType pcKey = some type)
    (servers : Servers) (server : Open5GSSBIServer) :
    (servers.pushBack pcKey server).addrs.Perm (server.addr :: servers.addrs) := by
  have hall : (servers.pushBack pcKey server).all.Perm (server :: servers.all) := by
    rw [pushBack, hkey]
    cases type with
    | distributionSession =>
        change (servers .distributionSession ++ [server] ++ _).Perm _
        rw [List.append_assoc]
        exact List.perm_middle
    | objectPush =>
        change (servers .distributionSession ++ (servers .objectPush ++ [server] ++ _)).Perm _
        rw [List.append_assoc, ← List.append_assoc]
        exact List.perm_middle.trans (by rw [List.append_assoc]; rfl)
    | rtp =>
        change (servers .distributionSession ++
          (servers .objectPush ++ (servers .rtp ++ [server]))).Perm _
        rw [← List.append_assoc, ← List.append_assoc]
        exact (List.perm_append_singleton server _).trans (by rw [List.append_assoc]; rfl)
  exact hall.map Open5GSSBIServer.addr

/-- What a block does with a node: the address of the node has a server already, or it gets
one. -/
def Added (addr : SockAddr) (servers next : Servers) : Prop :=
  (addr ∈ servers.addrs ∧ next = servers) ∨
    (addr ∉ servers.addrs ∧ next.addrs.Perm (addr :: servers.addrs))

theorem addServer_some (noIpv4 : Bool) (configuration : Configuration) (addr : SockAddr)
    (servers : Servers) :
    ∃ next, servers.addServer noIpv4 configuration (some addr) = some next ∧
      Added addr servers next := by
  rw [addServer, checkForAddr, checkServers_some]
  by_cases hmem : addr ∈ servers.all.map Open5GSSBIServer.addr
  · rw [decide_eq_true hmem]
    exact ⟨servers, rfl, Or.inl ⟨hmem, rfl⟩⟩
  · rw [decide_eq_false hmem]
    obtain ⟨type, htype⟩ := configuration.exists_serverType
    let server : Open5GSSBIServer := ⟨addr, configuration.isOption, []⟩
    have haddr : (server.ogsSBIServerAdvertise noIpv4 configuration.advertise).addr = addr := by
      rw [Open5GSSBIServer.ogsSBIServerAdvertise]
      split
      · rfl
      · rfl
    refine ⟨_, rfl, Or.inr ⟨hmem, ?_⟩⟩
    have hperm := addrs_pushBack htype servers
      (server.ogsSBIServerAdvertise noIpv4 configuration.advertise)
    rwa [haddr] at hperm

theorem addServer_of_mem {addr : SockAddr} (hmem : addr ∈ servers.addrs) (noIpv4 : Bool)
    (configuration : Configuration) :
    servers.addServer noIpv4 configuration (some addr) = some servers := by
  rw [addrs] at hmem
  rw [addServer, checkForAddr, checkServers_some, decide_eq_true hmem]
  rfl

/-- A null pointer is dereferenced by the check, or, when there is nothing to check it with,
by the constructor of the server. -/
theorem addServer_none (noIpv4 : Bool) (configuration : Configuration) (servers : Servers) :
    servers.addServer noIpv4 configuration none = none := by
  rw [addServer, checkForAddr]
  cases servers.all with
  | nil => rfl
  | cons srv srvs => rfl

namespace Added

variable {addr : SockAddr}

theorem mem (hadded : Added addr servers next) : addr ∈ next.addrs := by
  rcases hadded with ⟨hmem, rfl⟩ | ⟨-, hperm⟩
  · exact hmem
  · exact hperm.mem_iff.mpr List.mem_cons_self

theorem eq_or_mem (hadded : Added addr servers next) {other : SockAddr}
    (hother : other ∈ next.addrs) : other = addr ∨ other ∈ servers.addrs := by
  rcases hadded with ⟨-, rfl⟩ | ⟨-, hperm⟩
  · exact Or.inr hother
  · exact List.mem_cons.mp (hperm.mem_iff.mp hother)

theorem nodup (hadded : Added addr servers next) (hdistinct : servers.addrs.Nodup) :
    next.addrs.Nodup := by
  rcases hadded with ⟨-, rfl⟩ | ⟨hnew, hperm⟩
  · exact hdistinct
  · exact hperm.nodup_iff.mpr (List.nodup_cons.mpr ⟨hnew, hdistinct⟩)

end Added

/-! ## One section -/

variable {noIpv4 : Bool} {configuration : Configuration}

theorem parseConfiguration_of_nil (hlist : configuration.list = []) :
    parseConfiguration noIpv4 servers configuration =
      if configuration.list6 = [] then some servers else none := by
  rw [parseConfiguration, hlist]
  cases configuration.list6 with
  | nil => rfl
  | cons node6 nodes6 => exact addServer_none noIpv4 configuration servers

/-- With an IPv4 node the second block finds what the first one left. -/
theorem parseConfiguration_of_node {node : InetNode}
    (hnode : configuration.list.head? = some node) (servers : Servers) :
    parseConfiguration noIpv4 servers configuration =
      servers.addServer noIpv4 configuration (some node.addr) := by
  obtain ⟨next, hnext, hadded⟩ := addServer_some noIpv4 configuration node.addr servers
  rw [parseConfiguration, hnode, Option.map_some]
  change (servers.addServer noIpv4 configuration (some node.addr)).bind _ = _
  rw [hnext, Option.bind_some]
  cases configuration.list6 with
  | nil => rfl
  | cons node6 nodes6 => exact addServer_of_mem hadded.mem noIpv4 configuration

/-- What a section does: nothing without any nodes, and what one block does with its first IPv4
node otherwise. -/
theorem parseConfiguration_spec
    (hparse : parseConfiguration noIpv4 servers configuration = some next) :
    (configuration.list = [] ∧ configuration.list6 = [] ∧ next = servers) ∨
      ∃ node, configuration.list.head? = some node ∧ Added node.addr servers next := by
  cases hlist : configuration.list with
  | nil =>
      rw [parseConfiguration_of_nil hlist] at hparse
      split at hparse
      case isTrue hnone => exact Or.inl ⟨rfl, hnone, (Option.some.inj hparse).symm⟩
      case isFalse => cases hparse
  | cons node nodes =>
      have hnode : configuration.list.head? = some node := by
        rw [hlist]
        rfl
      obtain ⟨after, hafter, hadded⟩ := addServer_some noIpv4 configuration node.addr servers
      rw [parseConfiguration_of_node hnode, hafter] at hparse
      obtain rfl := Option.some.inj hparse
      exact Or.inr ⟨node, rfl, hadded⟩

/-- Without an IPv6 node no null pointer is dereferenced. -/
theorem exists_parseConfiguration (hlist6 : configuration.list6 = []) (noIpv4 : Bool)
    (servers : Servers) :
    ∃ next, parseConfiguration noIpv4 servers configuration = some next := by
  cases hnode : configuration.list.head? with
  | none =>
      rw [parseConfiguration_of_nil (List.head?_eq_none_iff.mp hnode), if_pos hlist6]
      exact ⟨servers, rfl⟩
  | some node =>
      obtain ⟨next, hnext, -⟩ := addServer_some noIpv4 configuration node.addr servers
      rw [parseConfiguration_of_node hnode]
      exact ⟨next, hnext⟩

/-! ## Sequences of sections -/

/-- The servers have no address twice. -/
def Distinct (servers : Servers) : Prop := servers.addrs.Nodup

/-- All servers have IPv4 addresses. -/
def AllInet (servers : Servers) : Prop :=
  ∀ addr ∈ servers.addrs, ∃ node : InetNode, addr = node.addr

theorem distinct_empty : Distinct empty := List.nodup_nil

theorem allInet_empty : AllInet empty := fun _ hmem => absurd hmem List.not_mem_nil

theorem Distinct.step (hdistinct : Distinct servers)
    (hparse : parseConfiguration noIpv4 servers configuration = some next) : Distinct next := by
  rcases parseConfiguration_spec hparse with ⟨-, -, rfl⟩ | ⟨node, -, hadded⟩
  · exact hdistinct
  · exact hadded.nodup hdistinct

theorem AllInet.step (hinet : AllInet servers)
    (hparse : parseConfiguration noIpv4 servers configuration = some next) : AllInet next := by
  rcases parseConfiguration_spec hparse with ⟨-, -, rfl⟩ | ⟨node, -, hadded⟩
  · exact hinet
  · intro addr hmem
    rcases hadded.eq_or_mem hmem with rfl | hold
    · exact ⟨node, rfl⟩
    · exact hinet addr hold

/-- The servers after a sequence of sections, if no null pointer is dereferenced. -/
def parseAll (noIpv4 : Bool) (configurations : List Configuration) : Option Servers :=
  run (parseConfiguration noIpv4) empty configurations

theorem distinct_parseAll {configurations : List Configuration} {final : Servers}
    (hrun : parseAll noIpv4 configurations = some final) : Distinct final :=
  run_invariant (fun _ _ _ hdistinct hparse => hdistinct.step hparse) distinct_empty hrun

theorem allInet_parseAll {configurations : List Configuration} {final : Servers}
    (hrun : parseAll noIpv4 configurations = some final) : AllInet final :=
  run_invariant (fun _ _ _ hinet hparse => hinet.step hparse) allInet_empty hrun

/-- The first nodes of a section have servers at their addresses. -/
structure Serves (servers : Servers) (configuration : Configuration) : Prop where
  inet : ∀ node, configuration.list.head? = some node → node.addr ∈ servers.addrs
  inet6 : ∀ node6, configuration.list6.head? = some node6 → node6.addr ∈ servers.addrs

/-- No null pointer is dereferenced, each section has servers at its addresses when it is done,
and no two servers ever have one address. -/
structure ListensOnce (noIpv4 : Bool) (configurations : List Configuration) : Prop where
  noNull : ∃ final, parseAll noIpv4 configurations = some final
  serves : ∀ past configuration after, past ++ [configuration] <+: configurations →
    parseAll noIpv4 (past ++ [configuration]) = some after → Serves after configuration
  distinct : ∀ past after, past <+: configurations → parseAll noIpv4 past = some after →
    Distinct after

/-- Every listen address gets a server, once, just when no section has an IPv6 node. -/
theorem listensOnce_iff (noIpv4 : Bool) (configurations : List Configuration) :
    ListensOnce noIpv4 configurations ↔
      ∀ configuration ∈ configurations, configuration.list6 = [] := by
  constructor
  · intro hlistens configuration hmem
    obtain ⟨past, rest, rfl⟩ := List.append_of_mem hmem
    have hsplit : past ++ configuration :: rest = past ++ [configuration] ++ rest := by
      rw [List.append_assoc]
      rfl
    obtain ⟨final, hrun⟩ := hlistens.noNull
    rw [hsplit, parseAll, run_append] at hrun
    obtain ⟨after, hafter, -⟩ := Option.bind_eq_some_iff.mp hrun
    have hserves := hlistens.serves past configuration after ⟨rest, hsplit.symm⟩ hafter
    cases hnode6 : configuration.list6.head? with
    | none => exact List.head?_eq_none_iff.mp hnode6
    | some node6 =>
        obtain ⟨node, haddr⟩ := allInet_parseAll hafter _ (hserves.inet6 node6 hnode6)
        cases haddr
  · intro hnone
    refine ⟨?_, ?_, fun past after _ hafter => distinct_parseAll hafter⟩
    · have hstep : ∀ servers, Distinct servers → ∀ configuration ∈ configurations,
          ∃ next, parseConfiguration noIpv4 servers configuration = some next ∧ Distinct next := by
        intro servers hdistinct configuration hmem
        obtain ⟨next, hnext⟩ := exists_parseConfiguration (hnone configuration hmem) noIpv4 servers
        exact ⟨next, hnext, hdistinct.step hnext⟩
      obtain ⟨final, hrun, -⟩ := run_isSome hstep distinct_empty
      exact ⟨final, hrun⟩
    · rintro past configuration after ⟨rest, rfl⟩ hafter
      obtain ⟨middle, -, hlast⟩ := run_concat_eq_some.mp hafter
      have hlist6 : configuration.list6 = [] := hnone configuration (by simp)
      rcases parseConfiguration_spec hlast with ⟨hlist, -, -⟩ | ⟨node, hnode, hadded⟩
      · exact ⟨by simp [hlist], by simp [hlist6]⟩
      · refine ⟨?_, by simp [hlist6]⟩
        intro other hother
        obtain rfl := Option.some.inj (hnode.symm.trans hother)
        exact hadded.mem

/-- A section that resolves to `[::1]:7777` only. -/
def onlyInet6 : Configuration where
  pcKey := "distSessionAPI"
  list := []
  list6 := [⟨1, 7777⟩]
  advertise := []
  isOption := false
  hkey := Or.inl rfl

/-- A section that resolves to `127.0.0.1:7777` as well. -/
def bothFamilies : Configuration where
  pcKey := "distSessionAPI"
  list := [⟨0x7f000001, 7777⟩]
  list6 := [⟨1, 7777⟩]
  advertise := []
  isOption := false
  hkey := Or.inl rfl

/-- Without an IPv4 node a null pointer is dereferenced, and with one there is no server for the
IPv6 node. -/
theorem bothFamilies_not_listensOnce :
    (parseAll false [onlyInet6] = none ∧ ¬ ListensOnce false [onlyInet6]) ∧
      ((parseAll false [bothFamilies]).map addrs = some [.inet 0x7f000001 7777] ∧
        ¬ ListensOnce false [bothFamilies]) := by
  have hnull : parseAll false [onlyInet6] = none := rfl
  have haddrs : (parseAll false [bothFamilies]).map addrs = some [.inet 0x7f000001 7777] := rfl
  refine ⟨⟨hnull, ?_⟩, haddrs, ?_⟩
  · intro hlistens
    obtain ⟨final, hrun⟩ := hlistens.noNull
    rw [hnull] at hrun
    cases hrun
  · intro hlistens
    obtain ⟨final, hrun⟩ := hlistens.noNull
    have hmem := (hlistens.serves [] bothFamilies final List.prefix_rfl hrun).inet6 _ rfl
    rw [hrun] at haddrs
    rw [Option.some.inj haddrs] at hmem
    exact absurd hmem (by decide)

end Servers

end Mbstf.Session
