/-
**The viewer's handlers, and whose pads they take.**

A session of the viewer has handlers on the signals of the RTP bin: `rtp_pad_added_handler`
(`viewer.hpp`) links a new pad to the bin of the session if the name of the pad begins with
`recv_rtp_src_` and the session's id, and `request_pt_map` (`aux.h`) gives the session's caps if the
id that is asked for is the session's.

The RTP bin names the pads of session `j` `recv_rtp_src_<j>_<ssrc>_<pt>`. The text that the handler
looks for ends with the id, without the separator, so it is found in the names of other sessions too:

* `targetPrefix_begins_iff`: what the handler of session `i` looks for begins the names of session
  `j`'s pads if `i` is `j`, or is left when last digits of `j` are dropped.
* `pad_own_session_iff`: the handler is right about session `j` unless the latter is so.
-/

import GstPipeline.Lib.Decimal
import GstPipeline.Session.RefCount

namespace GstPipeline.Receive

open GstPipeline.Lib GstPipeline.Rtp GstPipeline.Session

section Handlers

variable {S : Type}

/-! ### Sessions -/

/-- `GstCaps`, made for a session: two of them are the same object if they have the same owner. -/
structure Caps (S : Type) where
  owner : S
  mediaType : String
  media : String
  clockRate : Int
  encodingName : String
  deriving DecidableEq

/-- A `StreamSession_t` of the viewer; `rtpBin` says that the field has been set, and `counts` is the
session as far as its references go. -/
structure VideoSession (S : Type) where
  id : UInt32
  rtpBin : Bool
  vCaps : Caps S
  counts : StreamSession

/-- The caps that `make_video_session` makes. -/
def videoCaps (s : S) : Caps S := ⟨s, "application/x-rtp", "video", 90000, "H264"⟩

/-- `Viewer::make_video_session`. -/
def makeVideoSession (s : S) (id : UInt32) : VideoSession S :=
  ⟨id, false, videoCaps s, StreamSession.make .viewer⟩

/-! ### Handlers -/

/-- A pad of the RTP bin. -/
structure Pad where
  object : ℕ
  name : String
  deriving DecidableEq

/-- What the pad-added handler asks of GStreamer: to add the session's bin to the parent of the RTP
bin, to bring it to the parent's state, and, under an assertion that it goes well, to link the new
pad to its sink. -/
inductive Call (S : Type)
  | binAdd (bin : S)
  | syncStateWithParent (bin : S)
  | padLink (pad : Pad) (bin : S)
  deriving DecidableEq

/-- `g_str_has_prefix`. -/
def gStrHasPrefix (str target : String) : Bool := target.toList.isPrefixOf str.toList

/-- `target_prefix`: `g_strdup_printf("recv_rtp_src_%u", session->id)`. -/
def targetPrefix (id : UInt32) : String := "recv_rtp_src_" ++ id.toNat.repr

/-- `rtp_pad_added_handler`. -/
def rtpPadAddedHandler (s : S) (session : VideoSession S) (newPad : Pad) : List (Call S) :=
  if gStrHasPrefix newPad.name (targetPrefix session.id) then
    -- without its RTP bin the session has no parent to add the bin to
    (if session.rtpBin then [.binAdd s] else []) ++ [.syncStateWithParent s, .padLink newPad s]
  else []

/-- `request_pt_map`. -/
def requestPtMap (sessionId _pt : UInt32) (session : VideoSession S) : Option (Caps S) :=
  if sessionId = session.id then some session.vCaps else none

theorem padLink_mem_handler {s t : S} {session : VideoSession S} {pad newPad : Pad} :
    Call.padLink pad t ∈ rtpPadAddedHandler s session newPad ↔
      gStrHasPrefix newPad.name (targetPrefix session.id) = true ∧ pad = newPad ∧ t = s := by
  unfold rtpPadAddedHandler
  split <;> cases session.rtpBin <;> simp_all

/-! ### Whose pads -/

/-- The name that the RTP bin gives to a receive pad. -/
def recvRtpSrcName (sessionId ssrc pt : UInt32) : String :=
  "recv_rtp_src_" ++ sessionId.toNat.repr ++ "_" ++ ssrc.toNat.repr ++ "_" ++ pt.toNat.repr

/-- **What the handler looks for**, in the name of a pad of session `j`. -/
theorem targetPrefix_begins_iff (i j ssrc pt : UInt32) :
    gStrHasPrefix (recvRtpSrcName j ssrc pt) (targetPrefix i) = true ↔
      i = j ∨ 0 < i ∧ ∃ dropped, j.toNat / 10 ^ (dropped + 1) = i.toNat := by
  unfold gStrHasPrefix recvRtpSrcName targetPrefix
  rw [List.isPrefixOf_iff_prefix]
  simp only [String.toList_append, List.append_assoc, List.prefix_append_right_inj,
    Nat.toList_repr]
  -- the separator after the id is where the two texts part
  have separator : "_".toList = ['_'] := rfl
  rw [separator, List.singleton_append, prefix_append_cons_iff Nat.underscore_not_in_toDigits,
    toDigits_prefix_iff, UInt32.toNat_inj]
  rfl

/-- **Pads of the own session.** The handler of a session links the pads of session `j` to the
session's bin if and only if `j` is its id, except where its id is what is left of `j` when last
digits are dropped. -/
theorem pad_own_session_iff (s : S) (session : VideoSession S) (object : ℕ) (j ssrc pt : UInt32) :
    (Call.padLink ⟨object, recvRtpSrcName j ssrc pt⟩ s ∈
        rtpPadAddedHandler s session ⟨object, recvRtpSrcName j ssrc pt⟩ ↔ session.id = j) ↔
      ¬ (0 < session.id ∧ ∃ dropped, j.toNat / 10 ^ (dropped + 1) = session.id.toNat) := by
  have begins := targetPrefix_begins_iff session.id j ssrc pt
  -- a number with digits dropped is a smaller one
  have other : (0 < session.id ∧ ∃ dropped, j.toNat / 10 ^ (dropped + 1) = session.id.toNat) →
      session.id ≠ j := by
    rintro ⟨positive, dropped, same⟩ rfl
    have smaller := Nat.div_lt_self (UInt32.lt_iff_toNat_lt.mp positive)
      (Nat.one_lt_pow (Nat.succ_ne_zero dropped) (by decide : 1 < 10))
    exact Nat.ne_of_lt smaller same
  rw [padLink_mem_handler, begins]
  constructor
  · intro right shorter
    exact other shorter (right.mp ⟨Or.inr shorter, rfl, rfl⟩)
  · intro longer
    exact ⟨fun taken => taken.1.resolve_right longer, fun own => ⟨Or.inl own, rfl, rfl⟩⟩

end Handlers

/-- The session with id 1 takes the pads of session 10. -/
theorem takes_pad_of_ten :
    ¬ (Call.padLink ⟨0, recvRtpSrcName 10 7 96⟩ () ∈
        rtpPadAddedHandler () { makeVideoSession () 1 with rtpBin := true }
          ⟨0, recvRtpSrcName 10 7 96⟩ ↔ (makeVideoSession () 1).id = 10) := by
  intro right
  have begins : gStrHasPrefix (recvRtpSrcName 10 7 96) (targetPrefix 1) = true :=
    (targetPrefix_begins_iff 1 10 7 96).mpr (Or.inr ⟨by decide, 0, rfl⟩)
  have same := right.mp (padLink_mem_handler.mpr ⟨begins, rfl, rfl⟩)
  exact absurd same (by decide)

end GstPipeline.Receive
