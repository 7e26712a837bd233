/-
**The RTP set-ups of the streamer and the viewer, statement by statement.**

`setup_rtp_sender_with_stream_session` (`streamer.cpp`) and
`setup_rtp_receiver_with_stream_session` (`viewer.cpp`) make three UDP elements each, set their
addresses and ports, link them to pads of the RTP bin, connect handlers to its signals, and in the
end give up the caller's reference to the session. Here each is the list of its statements that do
one of these, with every access to a field of the session a statement of its own.

`streamerSetup` and `viewerSetup` are the two calls: `create_streamer` passes the client address
and the port of the table entry, the client's `main` passes the server address and the port of the
reply.

Statements that make elements, add them to the pipeline or print are left out.
-/

import GstPipeline.Binder.Server

namespace GstPipeline.Rtp

open GstPipeline.Binder

/-- The fields of a `StreamSession_t`. -/
inductive Field
  | numRef
  | id
  | bin
  | rtpBin
  | vCaps
  deriving DecidableEq, Repr

/-- The UDP elements. -/
inductive Element
  | rtpSrc
  | rtpSink
  | rtcpSrc
  | rtcpSink
  deriving DecidableEq, Repr

/-- What a pad of the RTP bin carries. -/
inductive Packets
  | rtp
  | rtcp
  deriving DecidableEq, Repr

/-- The signals of the RTP bin. -/
inductive Signal
  | requestAuxSender
  | requestAuxReceiver
  | padAdded
  | requestPtMap
  deriving DecidableEq, Repr

/-- A statement of a set-up. -/
inductive Statement
  /-- `g_object_set` of a `udpsrc`: the address and the port it listens on. -/
  | setSrc (src : Element) (address : String) (port : Int)
  /-- `g_object_set` of a `udpsink`: the host and the port it sends to. -/
  | setSink (sink : Element) (host : String) (port : Int)
  /-- A `udpsrc` is linked to the pad of the RTP bin that takes these packets. -/
  | linkSrc (src : Element) (packets : Packets)
  /-- The pad of the RTP bin that gives these packets is linked to a `udpsink`. -/
  | linkSink (packets : Packets) (sink : Element)
  | readField (field : Field)
  | writeField (field : Field)
  /-- `g_signal_connect` with the session. -/
  | connect (signal : Signal)
  /-- `g_signal_connect_data` with `stream_session_ref(session)`, and `stream_session_unref` for
  when the closure is finalised. -/
  | connectRef (signal : Signal)
  /-- `stream_session_unref(session)`. -/
  | unref
  deriving DecidableEq, Repr

/-- `Streamer::setup_rtp_sender_with_stream_session`. -/
def setupRtpSender (receiverAddr : String) (portBase : Int) : List Statement :=
  [.setSink .rtpSink receiverAddr portBase,
    .setSink .rtcpSink receiverAddr (portBase + 1),
    .setSrc .rtcpSrc receiverAddr (portBase + 2),
    .connect .requestAuxSender,
    .readField .id,
    .readField .bin,
    .linkSink .rtp .rtpSink,
    .readField .id,
    .linkSink .rtcp .rtcpSink,
    .readField .id,
    .linkSrc .rtcpSrc .rtcp,
    .unref]

/-- `Viewer::setup_rtp_receiver_with_stream_session`. -/
def setupRtpReceiver (addr : String) (portBase : Int) : List Statement :=
  [.writeField .rtpBin,
    .readField .vCaps,
    .setSrc .rtpSrc addr portBase,
    .setSrc .rtcpSrc addr (portBase + 1),
    .setSink .rtcpSink addr (portBase + 2),
    .connect .requestAuxReceiver,
    .connectRef .padAdded,
    .connectRef .requestPtMap,
    .readField .id,
    .linkSrc .rtpSrc .rtp,
    .readField .id,
    .linkSrc .rtcpSrc .rtcp,
    .readField .id,
    .linkSink .rtcp .rtcpSink,
    .unref]

/-- The call in `create_streamer`, for a table entry. -/
def streamerSetup (info : ServiceInfo) : List Statement :=
  setupRtpSender info.clientIp info.port

/-- The call in the client's `main`, with the reply it got. -/
def viewerSetup (bindInfo : BindInfo) : List Statement :=
  setupRtpReceiver bindInfo.serverIp bindInfo.port

/-! ### What the UDP elements of a set-up do -/

/-- An address and a port. -/
structure Endpoint where
  address : String
  port : Int
  deriving DecidableEq, Repr

/-- What an element is set to, by the statement that sets it. -/
def Statement.setting (element : Element) : Statement → Option Endpoint
  | .setSrc src address port => if src = element then some ⟨address, port⟩ else none
  | .setSink sink host port => if sink = element then some ⟨host, port⟩ else none
  | _ => none

/-- The element that these packets arrive at. -/
def Statement.source (packets : Packets) : Statement → Option Element
  | .linkSrc src kind => if kind = packets then some src else none
  | _ => none

/-- The element that these packets leave by. -/
def Statement.sink (packets : Packets) : Statement → Option Element
  | .linkSink kind sink => if kind = packets then some sink else none
  | _ => none

/-- What a `udpsrc` is set to listen on. -/
def Statement.listens : Statement → Option Endpoint
  | .setSrc _ address port => some ⟨address, port⟩
  | _ => none

/-- Where a set-up listens, over all its `udpsrc`s. -/
def listeners (setup : List Statement) : List Endpoint := setup.filterMap Statement.listens

/-- Where a set-up listens for these packets. -/
def listensAt (setup : List Statement) (packets : Packets) : Option Endpoint :=
  (setup.findSome? (Statement.source packets)).bind fun src =>
    setup.findSome? (Statement.setting src)

/-- Where a set-up sends these packets. -/
def sendsTo (setup : List Statement) (packets : Packets) : Option Endpoint :=
  (setup.findSome? (Statement.sink packets)).bind fun sink =>
    setup.findSome? (Statement.setting sink)

end GstPipeline.Rtp
