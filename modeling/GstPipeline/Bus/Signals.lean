/-
**What the callbacks of the bus are given.**

`connect_basic_signals` (`cb_basic.h`) connects four callbacks to a bus. Each gets back the pointer
that was passed when it was connected, without a type: two were given `data`, the pointer to the
common data of the pipeline, and two were given `&data`, the address of the parameter itself, which
is not there any more once the function has returned.

* `Connection`: a call of `connect_basic_signals`, and the memory when it has `returned`.
* `deliver`: a message runs the callbacks of its kind; every object that a callback reaches through
  its pointer is noted.
* `callbacks_right_iff`: all of them are the connected data, and the main loop has been asked to quit
  exactly when an error or the end of the stream was delivered, if and only if no change of state
  and no end of stream was delivered.
-/

import Mathlib.Data.List.Basic
import Mathlib.Logic.Function.Basic

namespace GstPipeline.Bus

/-! ### Memory -/

/-- `GstCommonData_t`: three GObjects, by their identities. -/
structure GstCommonData where
  pipeline : ℕ
  loop : ℕ
  rtpBin : ℕ
  deriving DecidableEq

/-- An object in memory: common data, or a variable that holds a pointer. -/
inductive Object
  | commonData (common : GstCommonData)
  | pointer (value : ℕ)
  deriving DecidableEq

/-- The live object at each address. -/
abbrev Memory := ℕ → Option Object

/-! ### Messages and callbacks -/

/-- The messages that are connected. -/
inductive MessageKind
  | error
  | warning
  | stateChanged
  | eos
  deriving DecidableEq

/-- A message, with the object that it comes from. -/
structure Message where
  kind : MessageKind
  src : ℕ
  deriving DecidableEq

/-- The callbacks of `cb_basic.h`. All but `cbWarning` take a pointer to common data. -/
inductive Callback
  | cbError
  | cbWarning
  | cbState
  | cbEos
  deriving DecidableEq

/-- A connected callback, with its user data. -/
structure Handler where
  signal : MessageKind
  callback : Callback
  userData : ℕ

/-- `connect_basic_signals(bus, data)`, where `param` is the address of the parameter `data`. -/
def connectBasicSignals (data param : ℕ) : List Handler :=
  [⟨.error, .cbError, data⟩,
    ⟨.warning, .cbWarning, data⟩,
    ⟨.stateChanged, .cbState, param⟩,
    ⟨.eos, .cbEos, param⟩]

/-- What the callbacks act on: the memory, what they reached through their user data, the main loops
they asked to quit and the messages they printed. -/
structure Watch where
  memory : Memory
  reached : List (ℕ × Option Object)
  quits : List ℕ
  printed : List Message

namespace Watch

/-- `g_main_loop_quit`. -/
def quit (watch : Watch) (loop : ℕ) : Watch := { watch with quits := watch.quits ++ [loop] }

def print (watch : Watch) (message : Message) : Watch :=
  { watch with printed := watch.printed ++ [message] }

/-- Reach an object through user data, and go on if it is common data. What the callback does
otherwise is undefined; here it ends. -/
def through (watch : Watch) (userData : ℕ) (rest : GstCommonData → Watch → Watch) : Watch :=
  let reached := { watch with
    reached := watch.reached ++ [(userData, watch.memory userData)] }
  match watch.memory userData with
  | some (.commonData common) => rest common reached
  | _ => reached

end Watch

/-- A callback runs. -/
def Callback.run (userData : ℕ) (message : Message) (watch : Watch) : Callback → Watch
  | .cbError => (watch.print message).through userData fun common watch => watch.quit common.loop
  | .cbWarning => watch.print message
  | .cbState =>
    watch.through userData fun common watch =>
      if message.src = common.pipeline then watch.print message else watch
  | .cbEos => (watch.print message).through userData fun common watch => watch.quit common.loop

/-- A message runs the callbacks that are connected to its kind, in their order. -/
def deliver (handlers : List Handler) (watch : Watch) (message : Message) : Watch :=
  (handlers.filter fun handler => handler.signal = message.kind).foldl
    (fun watch handler => handler.callback.run handler.userData message watch) watch

/-! ### After the connection -/

/-- A call of `connect_basic_signals`: the memory it is made in, the address of the common data it is
called with, and the address of its parameter, where no live object is before. -/
structure Connection where
  before : Memory
  data : ℕ
  param : ℕ
  common : GstCommonData
  live : before data = some (.commonData common)
  unused : before param = none

namespace Connection

variable (connection : Connection)

/-- While the function runs, its parameter is an object. -/
def during : Memory :=
  Function.update connection.before connection.param (some (.pointer connection.data))

/-- When it has returned, the parameter is gone. -/
def returned : Memory := Function.update connection.during connection.param none

def handlers : List Handler := connectBasicSignals connection.data connection.param

/-- After these messages. -/
def after (messages : List Message) : Watch :=
  messages.foldl (deliver connection.handlers) ⟨connection.returned, [], [], []⟩

/-- The callbacks that use their user data reach the connected data, and the main loop has been asked
to quit exactly when an error or the end of the stream was delivered. -/
def CallbacksRight (messages : List Message) : Prop :=
  (∀ access ∈ (connection.after messages).reached,
    access = (connection.data, some (.commonData connection.common))) ∧
  (connection.common.loop ∈ (connection.after messages).quits ↔
    ∃ message ∈ messages, message.kind = .error ∨ message.kind = .eos)

/-- What the callbacks of one message reach. -/
def reaches (message : Message) : List (ℕ × Option Object) :=
  match message.kind with
  | .error => [(connection.data, some (.commonData connection.common))]
  | .warning => []
  | .stateChanged => [(connection.param, none)]
  | .eos => [(connection.param, none)]

/-- The main loops that the callbacks of one message ask to quit. -/
def asks (message : Message) : List ℕ :=
  if message.kind = .error then [connection.common.loop] else []

variable {connection}

theorem returned_data : connection.returned connection.data =
    some (.commonData connection.common) := by
  have apart : connection.data ≠ connection.param := by
    intro same
    cases connection.live.symm.trans (same ▸ connection.unused)
  unfold returned during
  rw [Function.update_of_ne apart, Function.update_of_ne apart, connection.live]

theorem returned_param : connection.returned connection.param = none := Function.update_self ..

/-- **One message.** -/
theorem deliver_spec {watch : Watch} (message : Message)
    (same : watch.memory = connection.returned) :
    (deliver connection.handlers watch message).memory = connection.returned ∧
      (deliver connection.handlers watch message).reached =
        watch.reached ++ connection.reaches message ∧
      (deliver connection.handlers watch message).quits =
        watch.quits ++ connection.asks message := by
  obtain ⟨memory, reached, quits, printed⟩ := watch
  obtain ⟨kind, src⟩ := message
  have live := connection.returned_data
  have ended := connection.returned_param
  simp only at same
  subst same
  cases kind with
  | error =>
    simp [deliver, handlers, connectBasicSignals, Callback.run, Watch.through, Watch.print,
      Watch.quit, reaches, asks, live]
  | warning =>
    simp [deliver, handlers, connectBasicSignals, Callback.run, Watch.print, reaches, asks]
  | stateChanged =>
    simp [deliver, handlers, connectBasicSignals, Callback.run, Watch.through, reaches, asks,
      ended]
  | eos =>
    simp [deliver, handlers, connectBasicSignals, Callback.run, Watch.through, Watch.print,
      reaches, asks, ended]

theorem run_spec (messages : List Message) {watch : Watch}
    (same : watch.memory = connection.returned) :
    (messages.foldl (deliver connection.handlers) watch).reached =
        watch.reached ++ messages.flatMap connection.reaches ∧
      (messages.foldl (deliver connection.handlers) watch).quits =
        watch.quits ++ messages.flatMap connection.asks := by
  induction messages generalizing watch with
  | nil => simp
  | cons message rest ih =>
    obtain ⟨memory, reached, quits⟩ := deliver_spec message same
    obtain ⟨reachedLater, quitsLater⟩ := ih memory
    rw [List.foldl_cons, reachedLater, quitsLater, reached, quits]
    simp

/-- **The bus callbacks act on the connected pipeline** exactly as long as only errors and warnings
are delivered. -/
theorem callbacks_right_iff (connection : Connection) (messages : List Message) :
    connection.CallbacksRight messages ↔
      ∀ message ∈ messages, message.kind ≠ .stateChanged ∧ message.kind ≠ .eos := by
  have started : (Watch.mk connection.returned [] [] []).memory = connection.returned := rfl
  obtain ⟨reached, quits⟩ := run_spec messages started
  unfold CallbacksRight after
  rw [reached, quits, List.nil_append, List.nil_append]
  constructor
  · rintro ⟨right, _⟩ message member
    have own : ∀ access ∈ connection.reaches message,
        access = (connection.data, some (.commonData connection.common)) :=
      fun access reach => right access (List.mem_flatMap.mpr ⟨message, member, reach⟩)
    unfold reaches at own
    constructor
    · intro kind
      simp [kind] at own
    · intro kind
      simp [kind] at own
  · intro safe
    constructor
    · intro access member
      obtain ⟨message, member, reach⟩ := List.mem_flatMap.mp member
      obtain ⟨notState, notEos⟩ := safe message member
      unfold reaches at reach
      split at reach
      · exact List.mem_singleton.mp reach
      · cases reach
      · exact (notState ‹_›).elim
      · exact (notEos ‹_›).elim
    · simp only [List.mem_flatMap, asks]
      constructor
      · rintro ⟨message, member, asked⟩
        split at asked
        · exact ⟨message, member, Or.inl ‹_›⟩
        · cases asked
      · rintro ⟨message, member, error | eos⟩
        · exact ⟨message, member, by simp [error]⟩
        · exact ((safe message member).2 eos).elim

/-- A pipeline's common data at address 8, and the parameter at address 16. -/
def streamer : Connection where
  before address := if address = 8 then some (.commonData ⟨1, 2, 3⟩) else none
  data := 8
  param := 16
  common := ⟨1, 2, 3⟩
  live := rfl
  unused := rfl

/-- **The end of the stream asks no main loop to quit**: its callback gets a pointer to nothing. -/
theorem eos_reaches_nothing :
    (streamer.after [⟨.eos, 1⟩]).reached = [(16, none)] ∧
      (streamer.after [⟨.eos, 1⟩]).quits = [] ∧ ¬ streamer.CallbacksRight [⟨.eos, 1⟩] := by
  have nowhere : (streamer.after [⟨.eos, 1⟩]).reached = [(16, none)] := by decide
  refine ⟨nowhere, by decide, fun right => ?_⟩
  have own := right.1 (16, none) (by rw [nowhere]; exact List.mem_singleton_self _)
  cases own

end Connection

end GstPipeline.Bus
