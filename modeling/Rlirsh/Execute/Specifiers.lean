import Mathlib.Data.List.Forall2
import Rlirsh.Execute.Server

namespace Rlirsh.Execute

open Rlirsh.Protocol
open Rlirsh.Net

universe u v w

variable {Addr : Type u} {Listener : Type v} {World : Type w}

namespace Client

/-- The loop of `prepare_local_forwarding`. -/
def listenAll (listen : Addr → World → Except Report Listener × World) :
    List (SocketAddrs Addr × String) → List Listener → List String → World →
      Except Report (List Listener × List String) × World
  | [], locals, remotes, world => (.ok (locals, remotes), world)
  | (localAddrs, remoteAddr) :: specifiers, locals, remotes, world =>
      match localAddrs.listen listen world with
      | (.error chain, world) => (.error ("failed to listen on the local address" :: chain), world)
      | (.ok listener, world) =>
          listenAll listen specifiers (locals ++ [listener]) (remotes ++ [remoteAddr]) world

/-- `prepare_local_forwarding` of `execute/mod.rs`. -/
def prepareLocalForwarding (listen : Addr → World → Except Report Listener × World)
    (specifiers : List (SocketAddrs Addr × String)) (world : World) :
    Except Report (List Listener × List String) × World :=
  listenAll listen specifiers [] [] world

end Client

namespace Server

/-- `prepare_local_forwarding` of `server/execute/mod.rs`. -/
def prepareLocalForwarding (lookup : String → Except Report (List Addr)) :
    List String → Except Report (List (SocketAddrs Addr))
  | [] => .ok []
  | addr :: connectAddrs => do
      let addrs ← SocketAddrs.new lookup addr
      let rest ← prepareLocalForwarding lookup connectAddrs
      .ok (addrs :: rest)

end Server

theorem Client.listenAll_spec {listen : Addr → World → Except Report Listener × World}
    {specifiers : List (SocketAddrs Addr × String)} {locals listeners : List Listener}
    {before remotes : List String} {world world' : World}
    (h : Client.listenAll listen specifiers locals before world =
      (.ok (listeners, remotes), world')) :
    remotes = before ++ specifiers.map Prod.snd ∧ ∃ added, listeners = locals ++ added ∧
      List.Forall₂ (fun specifier listener => Bound listen specifier.1 listener) specifiers
        added := by
  induction specifiers generalizing locals before world with
  | nil =>
      obtain ⟨hok, -⟩ := Prod.mk.inj h
      obtain ⟨rfl, rfl⟩ := Prod.mk.inj (Except.ok.inj hok)
      exact ⟨by simp, [], by simp, .nil⟩
  | cons specifier specifiers ih =>
      simp only [Client.listenAll] at h
      split at h
      · cases h
      · rename_i listener world'' heq
        obtain ⟨hremotes, added, hlisteners, hbound⟩ := ih h
        refine ⟨by simpa using hremotes, listener :: added, by simpa using hlisteners, ?_⟩
        exact .cons (SocketAddrs.listen_spec heq) hbound

/-- What the client listens on and what it asks the server to connect to stand in the order
of the specifiers. -/
theorem Client.prepareLocalForwarding_spec
    {listen : Addr → World → Except Report Listener × World}
    {specifiers : List (SocketAddrs Addr × String)} {listeners : List Listener}
    {remotes : List String} {world world' : World}
    (h : Client.prepareLocalForwarding listen specifiers world =
      (.ok (listeners, remotes), world')) :
    remotes = specifiers.map Prod.snd ∧
      List.Forall₂ (fun specifier listener => Bound listen specifier.1 listener) specifiers
        listeners := by
  obtain ⟨hremotes, added, hlisteners, hbound⟩ := Client.listenAll_spec h
  obtain rfl : listeners = added := hlisteners
  exact ⟨hremotes, hbound⟩

theorem Server.prepareLocalForwarding_resolved {lookup : String → Except Report (List Addr)}
    {connectAddrs : List String} {addrs : List (SocketAddrs Addr)}
    (h : Server.prepareLocalForwarding lookup connectAddrs = .ok addrs) :
    List.Forall₂ (fun addr a => SocketAddrs.new lookup addr = .ok a) connectAddrs addrs := by
  induction connectAddrs generalizing addrs with
  | nil =>
      obtain rfl := Except.ok.inj h
      exact .nil
  | cons addr connectAddrs ih =>
      simp only [Server.prepareLocalForwarding, bind, Except.bind] at h
      split at h
      · cases h
      · rename_i a ha
        split at h
        · cases h
        · rename_i rest hrest
          obtain rfl := Except.ok.inj h
          exact .cons ha (ih hrest)

theorem Server.originalAddr_of_resolved {lookup : String → Except Report (List Addr)}
    {connectAddrs : List String} {addrs : List (SocketAddrs Addr)}
    (h : List.Forall₂ (fun addr a => SocketAddrs.new lookup addr = .ok a) connectAddrs addrs) :
    addrs.map SocketAddrs.originalAddr = connectAddrs := by
  induction h with
  | nil => rfl
  | cons ha _ ih => rw [List.map_cons, (SocketAddrs.new_ok ha).1, ih]

end Rlirsh.Execute
