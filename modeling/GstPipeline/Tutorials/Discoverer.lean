/-
**The report of `discoverer.c`.**

For a URI that could be discovered the program prints the streams in it, each on a line that is
indented by its depth, with its tags below it. `print_topology` follows `next` where there is one, and
goes into the streams of a container only where there is none.

* `shown`: the tree of a stream, as `print_topology` goes through it.
* `printed_topology`: what is printed is that tree, indented.
* `topology_determined`: so two streams that are printed alike are shown alike, as trees of lines.
* `references_released`: what the callback gets from the discoverer, the lists and the copies, it
  gives back, on each of its paths, and never gives back what it has not got.
-/

import GstPipeline.Lib.Outline
import GstPipeline.Lib.Run

namespace GstPipeline.Tutorials.Discoverer

open GstPipeline.Lib

/-! ### What is discovered -/

/-- The value of a tag: a string, or another value, as it is serialized. -/
inductive TagValue
  | string (str : String)
  | other (serialized : String)

/-- A tag of a list: its nick and its value. -/
structure Tag where
  nick : String
  value : TagValue

/-- The caps of a stream: whether they are fixed, their codec description, and the caps as a text. -/
structure Caps where
  fixed : Bool
  codecDescription : Option String
  text : String

/-- A stream without those it leads to. -/
structure Own where
  nick : String
  caps : Option Caps
  tags : Option (List Tag)

/-- `GstDiscovererStreamInfo`: the streams of a container, and of any stream the next one. -/
inductive StreamInfo
  | stream (own : Own) (next : Option StreamInfo)
  | container (own : Own) (next : Option StreamInfo) (streams : List StreamInfo)

/-- `GstDiscovererResult`. -/
inductive Result
  | ok
  | uriInvalid
  | error
  | timeout
  | busy
  | missingPlugins
  deriving DecidableEq

/-- `GstDiscovererInfo`, with the message of the error and the text of the misc structure. -/
structure Info where
  uri : String
  result : Result
  message : String
  misc : String
  duration : ℕ
  tags : Option (List Tag)
  seekable : Bool
  streamInfo : Option StreamInfo

/-! ### The program -/

/-- What the program holds for a while: a reference to a stream and a list of streams with the depth of
the call that holds it. -/
inductive Ref
  | value
  | str
  | caps
  | desc
  | streamInfo (depth : ℕ)
  | streams (depth : ℕ)
  deriving DecidableEq

/-- A text that is printed, a duration, and what is got and given back. -/
inductive Action
  | print (text : String)
  | printerr (text : String)
  | printDuration (duration : ℕ)
  | get (ref : Ref)
  | release (ref : Ref)

/-- `%*s` of a blank, with the width `2 * depth`. -/
def blanks (depth : ℕ) : String := String.ofList (List.replicate (max (2 * depth) 1) ' ')

def TagValue.text : TagValue → String
  | string str => str
  | other serialized => serialized

/-- `print_tag_foreach`. -/
def printTagForeach (depth : ℕ) (tag : Tag) : List Action :=
  [.get .value, .get .str, .print (blanks depth ++ (tag.nick ++ ": " ++ tag.value.text) ++ "\n"),
    .release .str, .release .value]

/-- `desc` of `print_stream_info`. -/
def Own.desc (own : Own) : Option String :=
  own.caps.bind fun caps => if caps.fixed then caps.codecDescription else some caps.text

/-- The line of a stream. -/
def Own.label (own : Own) : String := own.nick ++ ": " ++ own.desc.getD ""

/-- `print_stream_info`. -/
def printStreamInfo (own : Own) (depth : ℕ) : List Action :=
  (if own.caps.isSome then [.get .caps] else []) ++
    (if own.desc.isSome then [.get .desc] else []) ++
    (if own.caps.isSome then [.release .caps] else []) ++
    [.print (blanks depth ++ own.label ++ "\n")] ++
    (if own.desc.isSome then [.release .desc] else []) ++
    match own.tags with
    | some tags =>
      .print (blanks (depth + 1) ++ "Tags:" ++ "\n") :: tags.flatMap (printTagForeach (depth + 2))
    | none => []

mutual

/-- `print_topology`. -/
def printTopology : StreamInfo → ℕ → List Action
  | .stream own none, depth => printStreamInfo own depth
  | .stream own (some next), depth =>
    printStreamInfo own depth ++
      .get (.streamInfo depth) ::
        (printTopology next (depth + 1) ++ [.release (.streamInfo depth)])
  | .container own (some next) _, depth =>
    printStreamInfo own depth ++
      .get (.streamInfo depth) ::
        (printTopology next (depth + 1) ++ [.release (.streamInfo depth)])
  | .container own none streams, depth =>
    printStreamInfo own depth ++
      .get (.streams depth) :: (printStreams streams (depth + 1) ++ [.release (.streams depth)])
termination_by structural info => info

/-- The loop of `print_topology`. -/
def printStreams : List StreamInfo → ℕ → List Action
  | [], _ => []
  | info :: rest, depth => printTopology info depth ++ printStreams rest depth
termination_by structural infos => infos

end

/-- The `switch` of `on_discovered_cb`. -/
def printResult (info : Info) : List Action :=
  match info.result with
  | .uriInvalid => [.print ("Invalid URI '" ++ info.uri ++ "' \n")]
  | .error => [.print ("Discoverer error: " ++ info.message ++ " \n")]
  | .timeout => [.print "Timeout \n"]
  | .busy => [.print "Busy \n"]
  | .missingPlugins =>
    [.get .str, .print ("Missing plugins: " ++ info.misc ++ "\n"), .release .str]
  | .ok => [.print ("Discovered '" ++ info.uri ++ "' \n")]

/-- `on_discovered_cb`. -/
def onDiscoveredCb (info : Info) : List Action :=
  printResult info ++
    if info.result ≠ .ok then [.printerr "This URI cannot be played \n"]
    else
      .printDuration info.duration ::
        ((match info.tags with
          | some tags => .print "Tags: \n" :: tags.flatMap (printTagForeach 1)
          | none => []) ++
        [.print ("Seekable: " ++ (if info.seekable then "yes" else "no") ++ " \n"), .print "\n"] ++
        match info.streamInfo with
        | none => []
        | some streamInfo =>
          [.get (.streamInfo 0), .print "Stream information: \n"] ++ printTopology streamInfo 1 ++
            [.release (.streamInfo 0), .print "\n"])

/-! ### The tree that is printed -/

/-- The tags of a stream, below it. -/
def tagForest (own : Own) : Forest (List Char) :=
  match own.tags with
  | some tags =>
    .tree "Tags:".toList
      (.leaves (tags.map fun tag => (tag.nick ++ ": " ++ tag.value.text).toList)) .nil
  | none => .nil

mutual

/-- The tree of a stream: its line, with its tags and then the streams it leads to below it. -/
def shown : StreamInfo → Forest (List Char)
  | .stream own none => .tree own.label.toList (tagForest own) .nil
  | .stream own (some next) =>
    .tree own.label.toList ((tagForest own).append (shown next)) .nil
  | .container own (some next) _ =>
    .tree own.label.toList ((tagForest own).append (shown next)) .nil
  | .container own none streams =>
    .tree own.label.toList ((tagForest own).append (shownStreams streams)) .nil
termination_by structural info => info

def shownStreams : List StreamInfo → Forest (List Char)
  | [] => .nil
  | info :: rest => (shown info).append (shownStreams rest)
termination_by structural infos => infos

end

/-- The text on the standard output. -/
def printed (actions : List Action) : List Char :=
  actions.flatMap fun
    | .print text => text.toList
    | _ => []

/-- The width of the indentation. -/
def width (depth : ℕ) : ℕ := max (2 * depth) 1

theorem width_injective : Function.Injective width := by
  intro first second same
  unfold width at same
  omega

@[simp] theorem printed_nil : printed [] = [] := rfl

@[simp] theorem printed_print (text : String) (rest : List Action) :
    printed (.print text :: rest) = text.toList ++ printed rest := rfl

@[simp] theorem printed_get (ref : Ref) (rest : List Action) :
    printed (.get ref :: rest) = printed rest := rfl

@[simp] theorem printed_release (ref : Ref) (rest : List Action) :
    printed (.release ref :: rest) = printed rest := rfl

theorem printed_append (first second : List Action) :
    printed (first ++ second) = printed first ++ printed second := List.flatMap_append

/-- A line. -/
theorem toList_line (depth : ℕ) (label : String) :
    (blanks depth ++ label ++ "\n").toList = indented (width depth) label.toList ++ ['\n'] := by
  simp only [blanks, String.toList_append, String.toList_ofList, indented, width]
  rfl

theorem printed_tags (depth : ℕ) (tags : List Tag) :
    printed (tags.flatMap (printTagForeach depth)) =
      render width depth
        (.leaves (tags.map fun tag => (tag.nick ++ ": " ++ tag.value.text).toList)) := by
  induction tags with
  | nil => rfl
  | cons tag rest ih =>
    rw [List.flatMap_cons, printed_append, ih, List.map_cons, Forest.leaves, render_tree]
    simp only [printTagForeach, printed_get, printed_print, printed_release, printed_nil, toList_line]
    simp [render, unlines, Forest.outline]

/-- A stream's own lines, before those of the streams it leads to. -/
theorem printed_streamInfo (own : Own) (depth : ℕ) (below : Forest (List Char)) :
    printed (printStreamInfo own depth) ++ render width (depth + 1) below =
      render width depth (.tree own.label.toList ((tagForest own).append below) .nil) := by
  have silent : ∀ (c : Prop) [Decidable c] (ref : Ref),
      printed (if c then [.get ref] else []) = [] ∧
        printed (if c then [.release ref] else []) = [] := by
    intro c _ ref
    by_cases holds : c <;> simp [holds]
  rw [render_tree, render_append]
  simp only [printStreamInfo, printed_append, (silent _ _).1, (silent _ _).2, List.nil_append,
    List.append_nil, printed_print, printed_nil, toList_line]
  cases tags : own.tags with
  | none => simp [tagForest, tags, render, unlines, Forest.outline]
  | some tags' =>
    have lines : printed (.print (blanks (depth + 1) ++ "Tags:" ++ "\n") ::
        tags'.flatMap (printTagForeach (depth + 2))) =
          render width (depth + 1) (tagForest own) := by
      rw [tagForest, tags, render_tree, ← printed_tags, printed_print, toList_line]
      simp [render, unlines, Forest.outline]
    rw [lines]
    simp [render, unlines, Forest.outline]

theorem printed_streamInfo_nil (own : Own) (depth : ℕ) :
    printed (printStreamInfo own depth) =
      render width depth (.tree own.label.toList (tagForest own) .nil) := by
  have nothing : ∀ forest : Forest (List Char), forest.append .nil = forest := by
    intro forest
    induction forest with
    | nil => rfl
    | tree label children others _ ih => rw [Forest.append, ih]
  have lines := printed_streamInfo own depth .nil
  rwa [nothing, show render width (depth + 1) .nil = [] from rfl, List.append_nil] at lines

theorem printed_within (ref : Ref) (inner : List Action) :
    printed (.get ref :: (inner ++ [.release ref])) = printed inner := by
  rw [printed_get, printed_append, printed_release, printed_nil, List.append_nil]

mutual

/-- **What is printed is the tree**, indented. -/
theorem printed_topology : ∀ (info : StreamInfo) (depth : ℕ),
    printed (printTopology info depth) = render width depth (shown info)
  | .stream own none, depth => by
    rw [printTopology, shown, printed_streamInfo_nil]
  | .stream own (some next), depth => by
    rw [printTopology, shown, printed_append, printed_within, printed_topology next (depth + 1),
      printed_streamInfo]
  | .container own (some next) streams, depth => by
    rw [printTopology, shown, printed_append, printed_within, printed_topology next (depth + 1),
      printed_streamInfo]
  | .container own none streams, depth => by
    rw [printTopology, shown, printed_append, printed_within, printed_streams streams (depth + 1),
      printed_streamInfo]
termination_by structural info => info

theorem printed_streams : ∀ (streams : List StreamInfo) (depth : ℕ),
    printed (printStreams streams depth) = render width depth (shownStreams streams)
  | [], depth => rfl
  | info :: rest, depth => by
    rw [printStreams, shownStreams, printed_append, render_append, printed_topology info depth,
      printed_streams rest depth]
termination_by structural streams => streams

end

/-- **The text determines the tree.** Two streams whose labels are clean, that is, do not begin with a
blank and have no line break, are printed alike only if they are shown as the same tree. -/
theorem topology_determined {first second : StreamInfo} {depth : ℕ}
    (clean : (shown first).All Clean) (clean' : (shown second).All Clean) :
    printed (printTopology first depth) = printed (printTopology second depth) ↔
      shown first = shown second := by
  rw [printed_topology, printed_topology]
  exact ⟨render_injective width_injective clean clean', congrArg _⟩

/-! ### What is held -/

/-- What the program holds, after an action: none to give back stops it. -/
def hold (held : Ref → ℕ) : Action → Option (Ref → ℕ)
  | .get ref => some (Function.update held ref (held ref + 1))
  | .release ref => if held ref = 0 then none else some (Function.update held ref (held ref - 1))
  | _ => some held

/-- The actions give back what they get, and no more. -/
def Neutral (actions : List Action) : Prop := ∀ held, runSteps hold held actions = some held

/-- A name stands for one reference at a time: what is got is not held already. -/
def Unheld (held : Ref → ℕ) (action : Action) : Prop := ∀ ref, action = .get ref → held ref = 0

/-- The actions are neutral, and get nothing that is held already, if none of those in `uses` is held
before. -/
structure Balanced (uses : Ref → Prop) (actions : List Action) : Prop where
  neutral : Neutral actions
  unheld : ∀ held, (∀ ref, uses ref → held ref = 0) → Along hold Unheld held actions

/-- What `print_stream_info` uses. -/
def Ref.Own : Ref → Prop
  | .streamInfo _ => False
  | .streams _ => False
  | _ => True

/-- What `print_topology` uses from a depth on. -/
def Ref.From (depth : ℕ) : Ref → Prop
  | .streamInfo d => depth ≤ d
  | .streams d => depth ≤ d
  | _ => True

section Balanced

variable {uses : Ref → Prop} {inner rest first second : List Action}

theorem Balanced.mono {more : Ref → Prop} (balanced : Balanced uses inner)
    (fewer : ∀ ref, uses ref → more ref) : Balanced more inner where
  neutral := balanced.neutral
  unheld held free := balanced.unheld held fun ref used => free ref (fewer ref used)

theorem balanced_append (before : Balanced uses first) (after : Balanced uses second) :
    Balanced uses (first ++ second) where
  neutral held := runSteps_append.mpr ⟨held, before.neutral held, after.neutral held⟩
  unheld held free :=
    along_append (before.neutral held) (before.unheld held free) (after.unheld held free)

theorem balanced_nil : Balanced uses [] := ⟨fun _ => rfl, fun _ _ => trivial⟩

/-- An action that gets and gives back nothing. -/
theorem balanced_cons {action : Action} (keeps : ∀ held, hold held action = some held)
    (getsNot : ∀ ref, action ≠ .get ref) (after : Balanced uses rest) :
    Balanced uses (action :: rest) where
  neutral held := runSteps_cons.mpr ⟨held, keeps held, after.neutral held⟩
  unheld held free := by
    refine ⟨fun ref same => (getsNot ref same).elim, fun next stepped => ?_⟩
    cases (keeps held).symm.trans stepped
    exact after.unheld held free

theorem balanced_print (text : String) (after : Balanced uses rest) :
    Balanced uses (.print text :: rest) :=
  balanced_cons (fun _ => rfl) (fun _ same => by cases same) after

/-- Getting one and giving it back. -/
theorem hold_release (ref : Ref) (held : Ref → ℕ) :
    hold (Function.update held ref (held ref + 1)) (.release ref) = some held := by
  rw [hold, if_neg (by rw [Function.update_self]; exact Nat.succ_ne_zero _), Function.update_idem,
    Function.update_self, Nat.add_sub_cancel, Function.update_eq_self]

/-- What is got around balanced actions is there to be given back. -/
theorem balanced_within (ref : Ref) (balanced : Balanced uses inner) (apart : ¬ uses ref) :
    Balanced (fun other => other = ref ∨ uses other) (.get ref :: (inner ++ [.release ref])) where
  neutral held := by
    refine runSteps_cons.mpr ⟨_, rfl, runSteps_append.mpr ⟨_, balanced.neutral _, ?_⟩⟩
    exact runSteps_cons.mpr ⟨held, hold_release ref held, rfl⟩
  unheld held free := by
    refine ⟨fun other same => ?_, fun next stepped => ?_⟩
    · cases same
      exact free ref (Or.inl rfl)
    · cases stepped
      refine along_append (balanced.neutral _) (balanced.unheld _ fun other used => ?_)
        ⟨fun other same => (by cases same), fun _ _ => trivial⟩
      rw [Function.update_of_ne (by rintro rfl; exact apart used)]
      exact free other (Or.inr used)

/-- A short hold, with nothing else in use. -/
theorem balanced_around {ref : Ref} (used : uses ref) (balanced : Balanced (fun _ => False) inner) :
    Balanced uses (.get ref :: (inner ++ [.release ref])) := by
  refine (balanced_within ref balanced id).mono ?_
  rintro other (rfl | no)
  · exact used
  · exact no.elim

theorem balanced_flatMap {β : Type} {list : List β} {actions : β → List Action}
    (each : ∀ x, Balanced uses (actions x)) : Balanced uses (list.flatMap actions) := by
  induction list with
  | nil => exact balanced_nil
  | cons x rest ih => exact balanced_append (each x) ih

/-- The caps are given back while their description is still held. -/
theorem balanced_crossed (text : String) :
    Balanced Ref.Own [.get .caps, .get .desc, .release .caps, .print text, .release .desc] where
  neutral held := by
    have crossed : Function.update (Function.update held .caps (held .caps + 1)) .desc
          (Function.update held .caps (held .caps + 1) .desc + 1) =
        Function.update (Function.update held .desc (held .desc + 1)) .caps
          (Function.update held .desc (held .desc + 1) .caps + 1) := by
      rw [Function.update_of_ne (by decide), Function.update_of_ne (by decide),
        Function.update_comm (by decide)]
    refine runSteps_cons.mpr ⟨_, rfl, runSteps_cons.mpr ⟨_, rfl, runSteps_cons.mpr ⟨_, ?_,
      runSteps_cons.mpr ⟨_, rfl, runSteps_cons.mpr ⟨_, hold_release .desc held, rfl⟩⟩⟩⟩⟩
    rw [crossed]
    exact hold_release .caps _
  unheld held free := by
    refine ⟨fun ref same => ?_, fun first stepped => ?_⟩
    · cases same
      exact free .caps trivial
    · cases stepped
      refine ⟨fun ref same => ?_, fun second _ => ⟨fun ref same => (by cases same), fun third _ =>
        ⟨fun ref same => (by cases same), fun fourth _ =>
          ⟨fun ref same => (by cases same), fun _ _ => trivial⟩⟩⟩⟩
      cases same
      rw [Function.update_of_ne (by decide)]
      exact free .desc trivial

theorem balanced_tag (depth : ℕ) (tag : Tag) : Balanced Ref.Own (printTagForeach depth tag) := by
  have text : Balanced (fun _ => False)
      [.print (blanks depth ++ (tag.nick ++ ": " ++ tag.value.text) ++ "\n")] :=
    balanced_print _ balanced_nil
  have str : Balanced (· = .str) _ := balanced_around rfl text
  refine (balanced_within .value str nofun).mono ?_
  rintro ref (rfl | rfl) <;> trivial

theorem balanced_streamInfo (own : Own) (depth : ℕ) :
    Balanced Ref.Own (printStreamInfo own depth) := by
  unfold printStreamInfo
  refine balanced_append ?_ ?_
  · cases caps : own.caps with
    | none =>
      have none' : own.desc = none := by rw [Own.desc, caps]; rfl
      rw [none']
      exact balanced_print _ balanced_nil
    | some caps' =>
      cases own.desc with
      | none =>
        have onlyCaps : Balanced Ref.Own [.get .caps, .release .caps] :=
          balanced_around trivial balanced_nil
        have line := balanced_append onlyCaps
          (balanced_print (blanks depth ++ own.label ++ "\n") balanced_nil)
        simpa using line
      | some desc => exact balanced_crossed _
  · cases own.tags with
    | none => exact balanced_nil
    | some tags => exact balanced_print _ (balanced_flatMap fun tag => balanced_tag (depth + 2) tag)

theorem from_of_own {depth : ℕ} (ref : Ref) (own : ref.Own) : ref.From depth := by
  cases ref <;> trivial

/-- What is held at a depth is not used below it. -/
theorem balanced_deeper {depth : ℕ} {ref : Ref} (balanced : Balanced (Ref.From (depth + 1)) inner)
    (here : ref = .streamInfo depth ∨ ref = .streams depth) :
    Balanced (Ref.From depth) (.get ref :: (inner ++ [.release ref])) := by
  refine (balanced_within ref balanced ?_).mono ?_
  · rcases here with rfl | rfl <;> exact Nat.not_succ_le_self depth
  · rintro other (rfl | below)
    · rcases here with rfl | rfl <;> exact Nat.le_refl depth
    · cases other <;> first | trivial | exact Nat.le_of_succ_le below

mutual

theorem balanced_topology : ∀ (info : StreamInfo) (depth : ℕ),
    Balanced (Ref.From depth) (printTopology info depth)
  | .stream own none, depth => by
    rw [printTopology]
    exact (balanced_streamInfo own depth).mono from_of_own
  | .stream own (some next), depth => by
    rw [printTopology]
    exact balanced_append ((balanced_streamInfo own depth).mono from_of_own)
      (balanced_deeper (balanced_topology next (depth + 1)) (Or.inl rfl))
  | .container own (some next) streams, depth => by
    rw [printTopology]
    exact balanced_append ((balanced_streamInfo own depth).mono from_of_own)
      (balanced_deeper (balanced_topology next (depth + 1)) (Or.inl rfl))
  | .container own none streams, depth => by
    rw [printTopology]
    exact balanced_append ((balanced_streamInfo own depth).mono from_of_own)
      (balanced_deeper (balanced_streams streams (depth + 1)) (Or.inr rfl))
termination_by structural info => info

theorem balanced_streams : ∀ (streams : List StreamInfo) (depth : ℕ),
    Balanced (Ref.From depth) (printStreams streams depth)
  | [], _ => balanced_nil
  | info :: rest, depth => by
    rw [printStreams]
    exact balanced_append (balanced_topology info depth) (balanced_streams rest depth)
termination_by structural streams => streams

end

/-- The whole callback. -/
theorem balanced_onDiscoveredCb (info : Info) : Balanced (Ref.From 0) (onDiscoveredCb info) := by
  unfold onDiscoveredCb
  refine balanced_append ?_ ?_
  · unfold printResult
    cases info.result with
    | missingPlugins => exact balanced_around trivial (balanced_print _ balanced_nil)
    | _ => exact balanced_print _ balanced_nil
  · split
    · exact balanced_cons (fun _ => rfl) (fun _ same => by cases same) balanced_nil
    · refine balanced_cons (fun _ => rfl) (fun _ same => by cases same)
        (balanced_append (balanced_append ?_ ?_) ?_)
      · cases info.tags with
        | none => exact balanced_nil
        | some tags =>
          exact balanced_print _
            (balanced_flatMap fun tag => (balanced_tag 1 tag).mono from_of_own)
      · exact balanced_print _ (balanced_print _ balanced_nil)
      · cases info.streamInfo with
        | none => exact balanced_nil
        | some streamInfo =>
          have inner := balanced_deeper (balanced_append
            (balanced_print "Stream information: \n" balanced_nil) (balanced_topology streamInfo 1))
            (Or.inl rfl : Ref.streamInfo 0 = .streamInfo 0 ∨ _)
          have whole := balanced_append inner (balanced_print "\n" balanced_nil)
          simpa using whole

/-- **Everything is given back.** Whatever the result and whatever the tree of streams, the callback
releases each list, copy and reference that it gets, each once, and none that it does not hold. It
gets none under a name that it holds already, so a name stands for one of them at a time. -/
theorem references_released (info : Info) :
    Neutral (onDiscoveredCb info) ∧ Along hold Unheld (fun _ => 0) (onDiscoveredCb info) :=
  ⟨(balanced_onDiscoveredCb info).neutral,
    (balanced_onDiscoveredCb info).unheld _ fun _ _ => rfl⟩

end Balanced

/-! ### A report -/

/-- A container with an audio stream that has a tag. -/
def matroska : StreamInfo :=
  .container ⟨"container", some ⟨true, some "Matroska", ""⟩, none⟩ none
    [.stream ⟨"audio", some ⟨true, some "Vorbis", ""⟩, some [⟨"bitrate", .other "80000"⟩]⟩ none]

example : String.ofList (printed (printTopology matroska 1)) =
    "  container: Matroska\n    audio: Vorbis\n      Tags:\n        bitrate: 80000\n" := by
  decide

/-- The same, with the audio stream as the next one of the container. -/
def asNext : StreamInfo :=
  .container ⟨"container", some ⟨false, none, "Matroska"⟩, none⟩
    (some (.stream ⟨"audio", some ⟨true, some "Vorbis", ""⟩, some [⟨"bitrate", .string "80000"⟩]⟩
      none)) []

theorem topology_determined_matroska :
    printed (printTopology matroska 1) = printed (printTopology asNext 1) ∧
      shown matroska = shown asNext :=
  ⟨(topology_determined (by decide) (by decide)).mpr rfl, rfl⟩

end GstPipeline.Tutorials.Discoverer
