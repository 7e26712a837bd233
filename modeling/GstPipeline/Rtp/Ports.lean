/-
**How long the granted ports last.**

`bind` grants the ports upwards in steps of three, takes none back and has no other result than
`OK`. Both ends derive three UDP ports from a grant (`udpPorts_eq`).

* `binds`: calls of `bind` one after another, up to the first whose `port_base += 3` overflows.
* `bind_grants`: the `k`-th call adds without overflow exactly when `p + 3 * (k + 1)` is below
  `2 ^ 31`; such a call grants `p + 3 * k`, and its three ports are UDP ports exactly up to
  `p + 3 * k + 2 = 65535`.
* `grant_out_of_range`: a first port from which the second call grants a port that is none.
-/

import GstPipeline.Rtp.Setup

namespace GstPipeline.Rtp

open GstPipeline.Lib GstPipeline.Binder

/-- A UDP port number. -/
def UdpPort (port : Int) : Prop := 1 ≤ port ∧ port ≤ 65535

instance (port : Int) : Decidable (UdpPort port) := inferInstanceAs (Decidable (_ ∧ _))

/-- The port a statement sets. -/
def Statement.port : Statement → Option Int
  | .setSrc _ _ port => some port
  | .setSink _ _ port => some port
  | _ => none

/-- The ports that the two ends of a granted binding set. -/
def udpPorts (bindInfo : BindInfo) : List Int :=
  (setupRtpSender bindInfo.clientIp bindInfo.port).filterMap Statement.port ++
    (viewerSetup bindInfo).filterMap Statement.port

/-- Both ends derive the same three ports. -/
theorem udpPorts_eq (bindInfo : BindInfo) :
    udpPorts bindInfo =
      [bindInfo.port, bindInfo.port + 1, bindInfo.port + 2,
        bindInfo.port, bindInfo.port + 1, bindInfo.port + 2] := rfl

/-- All ports of a grant are UDP ports when the first and the last are. -/
theorem udpPorts_usable_iff (bindInfo : BindInfo) :
    (∀ port ∈ udpPorts bindInfo, UdpPort port) ↔ 1 ≤ bindInfo.port ∧ bindInfo.port + 2 ≤ 65535 := by
  rw [udpPorts_eq]
  constructor
  · intro usable
    have low := usable bindInfo.port (by simp)
    have high := usable (bindInfo.port + 2) (by simp)
    exact ⟨low.1, high.2⟩
  · rintro ⟨low, high⟩ port member
    unfold UdpPort
    simp only [List.mem_cons, List.not_mem_nil, or_false] at member
    omega

/-- A call of `bind` on a `port_base` that is an `int`: where `port_base += 3` overflows, the call is
undefined. -/
def bindInt (binder : ServerBinder) (inAddr : String) : Option BindReturn :=
  if InInt32 (binder.portBase + 3) then some (binder.bind inAddr) else none

/-- Calls of `bind` one after another, up to the first that is undefined. -/
def binds (binder : ServerBinder) : List String → List BindReturn
  | [] => []
  | inAddr :: rest =>
    match bindInt binder inAddr with
    | some ret => ret :: binds ret.binder rest
    | none => []

section Calls

variable {binder : ServerBinder} {inAddr : String} {rest inAddrs : List String} {k : ℕ}
  {ret : BindReturn}

theorem binds_of_fits (fits : InInt32 (binder.portBase + 3)) :
    binds binder (inAddr :: rest) = binder.bind inAddr :: binds (binder.bind inAddr).binder rest := by
  rw [binds, bindInt, if_pos fits]

theorem binds_of_overflow (overflows : ¬ InInt32 (binder.portBase + 3)) :
    binds binder (inAddr :: rest) = [] := by
  rw [binds, bindInt, if_neg overflows]

/-- The `k`-th call, by induction on the calls before it. -/
theorem binds_getElem (call : (binds binder inAddrs)[k]? = some ret) :
    ret.status = .ok ∧ ret.bindInfo.port = binder.portBase + 3 * k := by
  induction inAddrs generalizing binder k with
  | nil => cases call
  | cons inAddr rest ih =>
    by_cases fits : InInt32 (binder.portBase + 3)
    · rw [binds_of_fits fits] at call
      cases k with
      | zero =>
        cases call
        refine ⟨rfl, ?_⟩
        show binder.portBase = binder.portBase + 3 * ((0 : ℕ) : Int)
        omega
      | succ k =>
        obtain ⟨ok, port⟩ := ih call
        rw [ServerBinder.portBase_bind] at port
        refine ⟨ok, ?_⟩
        rw [port]
        omega
    · rw [binds_of_overflow fits] at call
      cases call

/-- Which calls are defined: those up to the first overflow. -/
theorem binds_defined_iff (low : 1 ≤ binder.portBase) (made : k < inAddrs.length) :
    (∃ ret, (binds binder inAddrs)[k]? = some ret) ↔
      binder.portBase + 3 * (k + 1) < 2 ^ 31 := by
  induction inAddrs generalizing binder k with
  | nil => cases made
  | cons inAddr rest ih =>
    by_cases fits : InInt32 (binder.portBase + 3)
    · rw [binds_of_fits fits]
      obtain ⟨_, high⟩ := fits
      cases k with
      | zero => exact ⟨fun _ => by omega, fun _ => ⟨_, rfl⟩⟩
      | succ k =>
        have lowNext : 1 ≤ (binder.bind inAddr).binder.portBase := by
          rw [ServerBinder.portBase_bind]
          omega
        have later := ih lowNext (Nat.lt_of_succ_lt_succ made)
        rw [ServerBinder.portBase_bind] at later
        rw [List.getElem?_cons_succ, later]
        omega
    · rw [binds_of_overflow fits]
      constructor
      · rintro ⟨_, call⟩
        cases call
      · intro inside
        exact (fits ⟨by omega, by omega⟩).elim

/-- **What every call grants.** -/
theorem bind_grants (low : 1 ≤ binder.portBase) (high : binder.portBase + 2 ≤ 65535)
    (made : k < inAddrs.length) :
    ((∃ ret, (binds binder inAddrs)[k]? = some ret) ↔
      binder.portBase + 3 * (k + 1) < 2 ^ 31) ∧
    ∀ ret, (binds binder inAddrs)[k]? = some ret →
      ret.status = .ok ∧ ret.bindInfo.port = binder.portBase + 3 * k ∧
      ((∀ port ∈ udpPorts ret.bindInfo, UdpPort port) ↔ binder.portBase + 3 * k + 2 ≤ 65535) := by
  refine ⟨binds_defined_iff low made, fun ret call => ?_⟩
  obtain ⟨ok, port⟩ := binds_getElem call
  refine ⟨ok, port, ?_⟩
  rw [udpPorts_usable_iff, port]
  omega

end Calls

theorem bind_grants_second :
    ∃ ret, (binds (.new "0.0.0.0" 3000 0 (2 * ·)) ["10.0.0.1", "10.0.0.2"])[1]? = some ret ∧
      ret.status = .ok ∧ ret.bindInfo.port = 3003 ∧ ∀ port ∈ udpPorts ret.bindInfo, UdpPort port := by
  obtain ⟨defined, grants⟩ := @bind_grants (.new "0.0.0.0" 3000 0 (2 * ·))
    ["10.0.0.1", "10.0.0.2"] 1 (by decide) (by decide) (by decide)
  obtain ⟨ret, call⟩ := defined.mpr (by decide)
  obtain ⟨ok, port, usable⟩ := grants ret call
  exact ⟨ret, call, ok, port, usable.mpr (by decide)⟩

/-- **A grant that is not a port.** -/
theorem grant_out_of_range :
    ∃ ret, (binds (.new "0.0.0.0" 65533 0 (2 * ·)) ["10.0.0.1", "10.0.0.2"])[1]? = some ret ∧
      1 ≤ (65533 : Int) ∧ (65533 : Int) + 2 ≤ 65535 ∧ ret.status = .ok ∧
      ret.bindInfo.port = 65536 ∧ ¬ UdpPort ret.bindInfo.port :=
  ⟨_, rfl, by decide, by decide, rfl, rfl, by decide⟩

end GstPipeline.Rtp
