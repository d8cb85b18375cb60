import Rlirsh.Protocol

namespace Rlirsh.Net

open Rlirsh.Protocol

universe u v w

inductive SocketAddr
  | v4 (ip : BitVec 32) (port : UInt16)
  | v6 (ip : BitVec 128) (port : UInt16) (flowinfo scopeId : UInt32)
deriving DecidableEq, Repr

def SocketAddr.localhost (port : UInt16) : SocketAddr := .v4 0x7f000001 port

structure TcpListener where
  fd : Nat
deriving DecidableEq, Repr

/-- `SocketAddrs` of `net.rs`, over any type of addresses. -/
structure SocketAddrs (Addr : Type u) where
  originalAddr : String
  addrs : List Addr
deriving DecidableEq, Repr

variable {Addr : Type u} {Listener : Type v} {World : Type w}

/-- `SocketAddrs::new` on a text, which `lookup` resolves. -/
def SocketAddrs.new (lookup : String → Except Report (List Addr)) (s : String) :
    Except Report (SocketAddrs Addr) :=
  match lookup s with
  | .error chain =>
      .error (("failed to lookup address information for `" ++ s ++ "`") :: chain)
  | .ok [] => .error ["failed to lookup address information for `" ++ s ++ "`"]
  | .ok (addr :: addrs) => .ok ⟨s, addr :: addrs⟩

/-- The loop of `SocketAddrs::listen`.  What `listen` on one address comes to depends on the
sockets there are. -/
def listenOn (listen : Addr → World → Except Report Listener × World) :
    List Addr → World → Option Listener × World
  | [], world => (none, world)
  | addr :: addrs, world =>
      match listen addr world with
      | (.ok listener, world) => (some listener, world)
      | (.error _, world) => listenOn listen addrs world

def SocketAddrs.listen (listen : Addr → World → Except Report Listener × World)
    (a : SocketAddrs Addr) (world : World) : Except Report Listener × World :=
  match listenOn listen a.addrs world with
  | (some listener, world) => (.ok listener, world)
  | (none, world) => (.error ["failed to listen on the address `" ++ a.originalAddr ++ "`"], world)

/-- The listener has been made for one of the addresses. -/
def Bound (listen : Addr → World → Except Report Listener × World) (a : SocketAddrs Addr)
    (listener : Listener) : Prop :=
  ∃ addr ∈ a.addrs, ∃ world world', listen addr world = (.ok listener, world')

theorem SocketAddrs.new_ok {lookup : String → Except Report (List Addr)} {s : String}
    {a : SocketAddrs Addr} (h : SocketAddrs.new lookup s = .ok a) :
    a.originalAddr = s ∧ a.addrs ≠ [] ∧ lookup s = .ok a.addrs := by
  unfold SocketAddrs.new at h
  split at h
  · cases h
  · cases h
  · rename_i addr addrs hlookup
    obtain rfl := Except.ok.inj h
    exact ⟨rfl, List.cons_ne_nil _ _, hlookup⟩

theorem listenOn_spec {listen : Addr → World → Except Report Listener × World}
    {addrs : List Addr} {world world' : World} {listener : Listener}
    (h : listenOn listen addrs world = (some listener, world')) :
    ∃ addr ∈ addrs, ∃ world world', listen addr world = (.ok listener, world') := by
  induction addrs generalizing world with
  | nil => cases h
  | cons addr addrs ih =>
      simp only [listenOn] at h
      split at h
      · rename_i listener' world'' heq
        obtain ⟨hsome, -⟩ := Prod.mk.inj h
        obtain rfl := Option.some.inj hsome
        exact ⟨addr, List.mem_cons_self .., world, world'', heq⟩
      · obtain ⟨addr', hmem, hlisten⟩ := ih h
        exact ⟨addr', List.mem_cons_of_mem _ hmem, hlisten⟩

theorem SocketAddrs.listen_spec {listen : Addr → World → Except Report Listener × World}
    {a : SocketAddrs Addr} {world world' : World} {listener : Listener}
    (h : a.listen listen world = (.ok listener, world')) : Bound listen a listener := by
  unfold SocketAddrs.listen at h
  split at h
  · rename_i listener' world'' heq
    obtain ⟨hok, rfl⟩ := Prod.mk.inj h
    cases hok
    exact listenOn_spec heq
  · cases h

end Rlirsh.Net
