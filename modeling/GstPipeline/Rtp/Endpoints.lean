/-
**Whether the two ends of a stream agree on their endpoints.**

The streamer is set up with the client's address, the viewer with the server's, and both with one
port. Three flows pass between them (`Flow`): RTP and sender RTCP to the viewer, receiver RTCP to
the streamer. Addresses address hosts (`hostOf`, any function); the wildcard listens on its own host
whatever it addresses.

* `EndpointsAgree`: every `udpsrc` listens on its own host, every flow is sent to the host and the
  port that the other end listens on for it, and no two flows have one port.
* `endpoints_agree_iff`: for the entry and the reply of any `bind` this holds exactly when the
  server's and the client's address are of one host. Both `udpsrc` set-ups use the address of the
  *other* end, the one that the `udpsink`s send to.
* `endpoints_disagree`: two hosts.
-/

import GstPipeline.Rtp.Setup

namespace GstPipeline.Rtp

open GstPipeline.Binder

/-- The flows of one stream. -/
inductive Flow
  | rtp
  | senderRtcp
  | receiverRtcp
  deriving DecidableEq, Repr

/-- The packets of a flow. -/
def Flow.packets : Flow → Packets
  | .rtp => .rtp
  | .senderRtcp => .rtcp
  | .receiverRtcp => .rtcp

/-- `0.0.0.0`. -/
def wildcard : String := "0.0.0.0"

/-- The two ends of a stream, each on a host. -/
structure Ends (H : Type) where
  streamer : List Statement
  viewer : List Statement
  streamerHost : H
  viewerHost : H

namespace Ends

variable {H : Type} (ends : Ends H)

/-- Where a flow is sent. -/
def destination : Flow → Option Endpoint
  | .receiverRtcp => sendsTo ends.viewer Flow.receiverRtcp.packets
  | flow => sendsTo ends.streamer flow.packets

/-- Where the other end listens for a flow. -/
def listener : Flow → Option Endpoint
  | .receiverRtcp => listensAt ends.streamer Flow.receiverRtcp.packets
  | flow => listensAt ends.viewer flow.packets

/-- The host that a flow is for. -/
def receiver : Flow → H
  | .receiverRtcp => ends.streamerHost
  | _ => ends.viewerHost

end Ends

/-- A `udpsrc` on `host` with this address gets what is sent to its host. -/
def OnOwnHost {H : Type} (hostOf : String → H) (host : H) (listener : Endpoint) : Prop :=
  listener.address = wildcard ∨ hostOf listener.address = host

/-- **Endpoint agreement.** -/
structure EndpointsAgree {H : Type} (hostOf : String → H) (ends : Ends H) : Prop where
  streamerOwn : ∀ listener ∈ listeners ends.streamer, OnOwnHost hostOf ends.streamerHost listener
  viewerOwn : ∀ listener ∈ listeners ends.viewer, OnOwnHost hostOf ends.viewerHost listener
  meets : ∀ flow, ∃ destination listener, ends.destination flow = some destination ∧
    ends.listener flow = some listener ∧ hostOf destination.address = ends.receiver flow ∧
    destination.port = listener.port
  apart : ∀ flow other a b, flow ≠ other → ends.listener flow = some a →
    ends.listener other = some b → a.port ≠ b.port

/-- The two ends that one `bind` sets up, the streamer on the host of the server's address and the
viewer on the host of the client's. -/
def endsOfBind {H : Type} (hostOf : String → H) (binder : ServerBinder) (inAddr : String) : Ends H where
  streamer := streamerSetup (binder.newService inAddr)
  viewer := viewerSetup (binder.bind inAddr).bindInfo
  streamerHost := hostOf binder.serverIp
  viewerHost := hostOf inAddr

section Bind

variable {H : Type} (hostOf : String → H) (binder : ServerBinder) (inAddr : String)

/-- Every end listens on the address of the other end. -/
theorem listener_bind (flow : Flow) :
    (endsOfBind hostOf binder inAddr).listener flow =
      match flow with
      | .rtp => some ⟨binder.serverIp, binder.portBase⟩
      | .senderRtcp => some ⟨binder.serverIp, binder.portBase + 1⟩
      | .receiverRtcp => some ⟨inAddr, binder.portBase + 2⟩ := by
  cases flow <;> rfl

theorem listeners_streamer :
    listeners (endsOfBind hostOf binder inAddr).streamer = [⟨inAddr, binder.portBase + 2⟩] := rfl

theorem listeners_viewer :
    listeners (endsOfBind hostOf binder inAddr).viewer =
      [⟨binder.serverIp, binder.portBase⟩, ⟨binder.serverIp, binder.portBase + 1⟩] := rfl

/-- Whatever the addresses, every flow is sent to the right host and port. -/
theorem meets_bind (flow : Flow) :
    ∃ destination listener, (endsOfBind hostOf binder inAddr).destination flow = some destination ∧
      (endsOfBind hostOf binder inAddr).listener flow = some listener ∧
      hostOf destination.address = (endsOfBind hostOf binder inAddr).receiver flow ∧
      destination.port = listener.port := by
  cases flow with
  | rtp => exact ⟨_, _, rfl, rfl, rfl, rfl⟩
  | senderRtcp => exact ⟨_, _, rfl, rfl, rfl, rfl⟩
  | receiverRtcp => exact ⟨_, _, rfl, rfl, rfl, rfl⟩

/-- The ports of the flows are three different ones. -/
theorem apart_bind (flow other : Flow) (a b : Endpoint) (different : flow ≠ other)
    (here : (endsOfBind hostOf binder inAddr).listener flow = some a)
    (there : (endsOfBind hostOf binder inAddr).listener other = some b) : a.port ≠ b.port := by
  rw [listener_bind] at here there
  cases flow <;> cases other <;> cases here <;> cases there <;>
    first | exact absurd rfl different | (intro same; simp only at same; omega)

/-- **Endpoint agreement, exactly.** The two ends of a `bind` agree when the addresses of the server
and of the client are of one host, and only then. -/
theorem endpoints_agree_iff :
    EndpointsAgree hostOf (endsOfBind hostOf binder inAddr) ↔
      hostOf binder.serverIp = hostOf inAddr := by
  constructor
  · intro agree
    have streamerOwn := agree.streamerOwn ⟨inAddr, binder.portBase + 2⟩
      (by rw [listeners_streamer]; exact List.mem_cons_self)
    have viewerOwn := agree.viewerOwn ⟨binder.serverIp, binder.portBase⟩
      (by rw [listeners_viewer]; exact List.mem_cons_self)
    rcases viewerOwn with anyAddress | same
    · rcases streamerOwn with anyAddressToo | same
      · exact congrArg hostOf (anyAddress.trans anyAddressToo.symm)
      · exact same.symm
    · exact same
  · intro same
    refine ⟨?_, ?_, meets_bind hostOf binder inAddr, apart_bind hostOf binder inAddr⟩
    · intro listener member
      rw [listeners_streamer] at member
      cases List.mem_singleton.mp member
      exact Or.inr same.symm
    · intro listener member
      rw [listeners_viewer] at member
      rcases List.mem_cons.mp member with rfl | member
      · exact Or.inr same
      · cases List.mem_singleton.mp member
        exact Or.inr same

/-- **The other end's address.** With the server on one host and the client on another, each address
of its own host, both ends listen on the host they are not on. -/
theorem endpoints_disagree :
    ¬ EndpointsAgree id (endsOfBind id (.new "10.0.0.1" 3000 0 (2 * ·)) "10.0.0.2") := by
  intro agree
  have own := agree.streamerOwn ⟨"10.0.0.2", 3002⟩ (by decide)
  rcases own with anyAddress | same
  · revert anyAddress
    decide
  · revert same
    decide

end Bind

end GstPipeline.Rtp
