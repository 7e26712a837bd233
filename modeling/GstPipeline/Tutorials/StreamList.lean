/-
**The list of streams of `gtk_player.c`.**

The tags of a stream change in a streaming thread, and the text view may only be written in the main
thread. So `tags_cb`, which the streaming thread calls after the change, posts a message on the bus;
the main loop gets to it later, and `analyze_streams` writes the whole list again. Tags change while
it reads them, and messages wait behind others.

* `step`: the playbin, the streaming threads, the bus and the statements of `analyze_streams`, in any
  order.
* `text_shows_streams`: no change is lost. Whenever no thread has yet to call `tags_cb` and no
  `tags-changed` message waits, the text is the list of the streams as they are.
* `text_catches_up`: from every reachable state the main loop and the threads that have yet to call
  `tags_cb` can get there on their own.

A stream that the playbin adds has no tags and no text. That it drops its streams no message says, so
it is the one thing that makes the text stale.
-/

import GstPipeline.Lib.Int32
import GstPipeline.Lib.Run
import Mathlib.Data.List.Range

namespace GstPipeline.Tutorials.GtkPlayer

open GstPipeline.Lib

/-! ### The text of a stream -/

inductive Kind
  | video
  | audio
  | text
  deriving DecidableEq

/-- What `analyze_streams` reads of a tag list. -/
structure Tags where
  videoCodec : Option String
  audioCodec : Option String
  languageCode : Option String
  bitrate : Option ℕ

/-- The lines of a tag, where the list has it. -/
def tagLine (label : String) (value : Option String) : List String :=
  match value with
  | some str => [s!"  {label}: {str}\n"]
  | none => []

/-- The pieces of text that the body of a loop inserts for a stream with tags. `none`: the branch for
a video stream reads and frees `str` also when the list has no codec, and `str` was not set. -/
def lines : Kind → ℕ → Tags → Option (List String)
  | .video, i, tags => tags.videoCodec.map fun str => [s!"video stream {i} \n", s!"\tcodec: {str}\n"]
  | .audio, i, tags =>
    some (s!"\naudio stream {i}:\n" :: tagLine "codec" tags.audioCodec ++
      tagLine "language" tags.languageCode ++
      tagLine "bitrate" (tags.bitrate.map fun rate => toString (toInt32 rate)))
  | .text, i, tags => some (s!"\nsubtitle stream {i}:\n" :: tagLine "language" tags.languageCode)

/-- A stream of the playbin, by its kind and number. -/
abbrev Stream : Type := Kind × ℕ

/-- The streams in the order of the three loops. -/
def order (nVideo nAudio nText : ℕ) : List Stream :=
  (List.range nVideo).map (Prod.mk .video) ++ (List.range nAudio).map (Prod.mk .audio) ++
    (List.range nText).map (Prod.mk .text)

/-- The tags of each stream of each kind. -/
abbrev Streams : Type := Kind → List (Option Tags)

/-- `get-video-tags`, `get-audio-tags` and `get-text-tags`. -/
def tagsAt (streams : Streams) (stream : Stream) : Option Tags :=
  ((streams stream.1)[stream.2]?).join

/-- The text of a stream. -/
def shownAt (streams : Streams) (stream : Stream) : List String :=
  match tagsAt streams stream with
  | some tags => (lines stream.1 stream.2 tags).getD []
  | none => []

/-- The list of all streams. -/
def shown (streams : Streams) : List String :=
  (order (streams .video).length (streams .audio).length (streams .text).length).flatMap
    (shownAt streams)

/-! ### The program -/

/-- A message of the bus: one of an application, by the name of its structure, or another. -/
inductive BusMessage
  | application (name : String)
  | other
  deriving DecidableEq

/-- `gst_message_new_application` with the empty structure of `tags_cb`. -/
def tagsChanged : BusMessage := .application "tags-changed"

/-- Where the main thread is: in its loop, or at a statement of `analyze_streams`. -/
inductive Main
  | idle
  | setText
  | getNVideo
  | getNAudio (nVideo : ℕ)
  | getNText (nVideo nAudio : ℕ)
  | loops (rest : List Stream)

/-- The playbin's streams, how many streaming threads have changed tags and have yet to call `tags_cb`,
the bus, the main thread and the text buffer. -/
structure Player where
  streams : Streams
  emitting : ℕ
  queue : List BusMessage
  main : Main
  text : List String

/-- The player at the start of the main loop. -/
def Player.start : Player := ⟨fun _ => [], 0, [], .idle, []⟩

/-- What can happen next. -/
inductive Move
  | addStream (kind : Kind)
  | dropStreams
  | setTags (stream : Stream) (tags : Option Tags)
  | tagsCb
  | post (message : BusMessage)
  | dispatch
  | statement

/-- `application_cb`, and the callbacks of other messages, which leave the text alone. -/
def applicationCb : BusMessage → Main
  | .application name => if name = "tags-changed" then .setText else .idle
  | .other => .idle

/-- The next statement of `analyze_streams`. -/
def analyzeStreams (player : Player) : Option Player :=
  match player.main with
  | .idle => none
  | .setText => some { player with text := [], main := .getNVideo }
  | .getNVideo => some { player with main := .getNAudio (player.streams .video).length }
  | .getNAudio nVideo =>
    some { player with main := .getNText nVideo (player.streams .audio).length }
  | .getNText nVideo nAudio =>
    some { player with main := .loops (order nVideo nAudio (player.streams .text).length) }
  | .loops [] => some { player with main := .idle }
  | .loops (stream :: rest) =>
    match tagsAt player.streams stream with
    | none => some { player with main := .loops rest }
    | some tags => (lines stream.1 stream.2 tags).map fun pieces =>
        { player with text := player.text ++ pieces, main := .loops rest }

/-- One move. -/
def step (player : Player) : Move → Option Player
  | .addStream kind =>
    some { player with
      streams := Function.update player.streams kind (player.streams kind ++ [none]) }
  | .dropStreams => some { player with streams := fun _ => [] }
  | .setTags stream tags =>
    if stream.2 < (player.streams stream.1).length then
      some { player with
        streams := Function.update player.streams stream.1
          ((player.streams stream.1).set stream.2 tags)
        emitting := player.emitting + 1 }
    else none
  | .tagsCb =>
    if player.emitting = 0 then none
    else some { player with
      emitting := player.emitting - 1
      queue := player.queue ++ [tagsChanged] }
  | .post message => some { player with queue := player.queue ++ [message] }
  | .dispatch =>
    match player.main, player.queue with
    | .idle, message :: rest => some { player with queue := rest, main := applicationCb message }
    | _, _ => none
  | .statement => analyzeStreams player

/-! ### What has been read -/

/-- From the `n`-th on, no stream of the kind has tags. -/
def Covers (streams : Streams) (kind : Kind) (n : ℕ) : Prop :=
  ∀ i, n ≤ i → tagsAt streams (kind, i) = none

/-- The list has every stream with tags, in the order of the loops. -/
def Complete (streams : Streams) (list : List Stream) : Prop :=
  ∃ nVideo nAudio nText, list = order nVideo nAudio nText ∧ Covers streams .video nVideo ∧
    Covers streams .audio nAudio ∧ Covers streams .text nText

/-- The text shows these streams, and each with tags has lines. -/
def Shows (streams : Streams) (list : List Stream) (text : List String) : Prop :=
  text = list.flatMap (shownAt streams) ∧
    ∀ stream ∈ list, ∀ tags, tagsAt streams stream = some tags →
      (lines stream.1 stream.2 tags).isSome = true

/-- What the main thread has read so far is what is there. -/
def Faithful (streams : Streams) (text : List String) : Main → Prop
  | .idle => ∃ list, Complete streams list ∧ Shows streams list text
  | .setText => True
  | .getNVideo => text = []
  | .getNAudio nVideo => text = [] ∧ Covers streams .video nVideo
  | .getNText nVideo nAudio =>
    text = [] ∧ Covers streams .video nVideo ∧ Covers streams .audio nAudio
  | .loops rest => ∃ done, Complete streams (done ++ rest) ∧ Shows streams done text

/-- **The invariant**: unless a change is still to be told, what was read is what is there. -/
def UpToDate (player : Player) : Prop :=
  player.emitting = 0 → tagsChanged ∉ player.queue →
    Faithful player.streams player.text player.main

section Streams

variable {streams : Streams} {kind : Kind} {stream : Stream}

theorem covers_length : Covers streams kind (streams kind).length := by
  intro i beyond
  show ((streams kind)[i]?).join = none
  rw [List.getElem?_eq_none beyond]
  rfl

theorem tagsAt_addStream :
    tagsAt (Function.update streams kind (streams kind ++ [none])) stream = tagsAt streams stream := by
  obtain ⟨other, i⟩ := stream
  show ((Function.update streams kind (streams kind ++ [none]) other)[i]?).join =
    ((streams other)[i]?).join
  by_cases same : other = kind
  · subst same
    rw [Function.update_self]
    rcases Nat.lt_trichotomy i (streams other).length with below | last | beyond
    · rw [List.getElem?_append_left below]
    · rw [last, List.getElem?_concat_length, List.getElem?_eq_none le_rfl]
      rfl
    · rw [List.getElem?_eq_none (by simp; omega), List.getElem?_eq_none (by omega)]
  · rw [Function.update_of_ne same]

/-- Everything that is read goes through `tagsAt`. -/
theorem faithful_congr {others : Streams} (same : tagsAt others = tagsAt streams)
    {text : List String} {main : Main} (faithful : Faithful streams text main) :
    Faithful others text main := by
  have covers : ∀ {kind n}, Covers streams kind n → Covers others kind n := by
    intro kind n covers i beyond
    rw [same]
    exact covers i beyond
  have complete : ∀ {list}, Complete streams list → Complete others list := by
    rintro _ ⟨nVideo, nAudio, nText, rfl, video, audio, text⟩
    exact ⟨nVideo, nAudio, nText, rfl, covers video, covers audio, covers text⟩
  have shows : ∀ {list}, Shows streams list text → Shows others list text := by
    rintro list ⟨rfl, defined⟩
    refine ⟨?_, fun stream member tags found => defined stream member tags (same ▸ found)⟩
    unfold shownAt
    rw [same]
  cases main with
  | idle => exact faithful.imp fun _ both => ⟨complete both.1, shows both.2⟩
  | setText => trivial
  | getNVideo => exact faithful
  | getNAudio nVideo => exact ⟨faithful.1, covers faithful.2⟩
  | getNText nVideo nAudio => exact ⟨faithful.1, covers faithful.2.1, covers faithful.2.2⟩
  | loops rest => exact faithful.imp fun _ both => ⟨complete both.1, shows both.2⟩

end Streams

/-! ### Every move keeps the invariant -/

section Moves

variable {player next : Player}

/-- A statement of `analyze_streams` writes the text only, and goes on. -/
theorem analyzeStreams_frame (moved : analyzeStreams player = some next) :
    next.streams = player.streams ∧ next.emitting = player.emitting ∧
      next.queue = player.queue := by
  unfold analyzeStreams at moved
  split at moved
  · cases moved
  case h_7 =>
    split at moved
    · cases moved
      exact ⟨rfl, rfl, rfl⟩
    · obtain ⟨_, _, rfl⟩ := Option.map_eq_some_iff.mp moved
      exact ⟨rfl, rfl, rfl⟩
  all_goals
    cases moved
    exact ⟨rfl, rfl, rfl⟩

/-- One stream more is read. -/
theorem shows_snoc {streams : Streams} {done : List Stream} {text pieces : List String}
    {stream : Stream} (shows : Shows streams done text) (piece : pieces = shownAt streams stream)
    (defined : ∀ tags, tagsAt streams stream = some tags →
      (lines stream.1 stream.2 tags).isSome = true) :
    Shows streams (done ++ [stream]) (text ++ pieces) := by
  obtain ⟨rfl, earlier⟩ := shows
  refine ⟨by rw [List.flatMap_append, List.flatMap_singleton, piece], fun other member => ?_⟩
  rcases List.mem_append.mp member with before | last
  · exact earlier other before
  · rwa [List.mem_singleton.mp last]

theorem faithful_statement (faithful : Faithful player.streams player.text player.main)
    (moved : analyzeStreams player = some next) :
    Faithful player.streams next.text next.main := by
  unfold analyzeStreams at moved
  split at moved
  case h_1 => cases moved
  case h_2 here =>
    cases moved
    rfl
  case h_3 here =>
    cases moved
    rw [here] at faithful
    exact ⟨faithful, covers_length⟩
  case h_4 nVideo here =>
    cases moved
    rw [here] at faithful
    exact ⟨faithful.1, faithful.2, covers_length⟩
  case h_5 nVideo nAudio here =>
    cases moved
    rw [here] at faithful
    obtain ⟨empty, video, audio⟩ := faithful
    exact ⟨[], ⟨nVideo, nAudio, _, rfl, video, audio, covers_length⟩, empty, nofun⟩
  case h_6 here =>
    cases moved
    rw [here] at faithful
    obtain ⟨done, complete, shows⟩ := faithful
    exact ⟨done, List.append_nil done ▸ complete, shows⟩
  case h_7 stream rest here =>
    rw [here] at faithful
    obtain ⟨done, complete, shows⟩ := faithful
    rw [List.append_cons] at complete
    split at moved
    case h_1 noTags =>
      cases moved
      refine ⟨done ++ [stream], complete, ?_⟩
      have nothing : [] = shownAt player.streams stream := by simp only [shownAt, noTags]
      have kept := shows_snoc shows nothing fun tags found => by cases noTags.symm.trans found
      rwa [List.append_nil] at kept
    case h_2 tags found =>
      obtain ⟨pieces, written, rfl⟩ := Option.map_eq_some_iff.mp moved
      refine ⟨done ++ [stream], complete, shows_snoc shows ?_ fun other again => ?_⟩
      · simp only [shownAt, found, written, Option.getD_some]
      · cases found.symm.trans again
        rw [written]
        rfl

/-- The move does not take streams away. -/
def Keeps : Move → Prop
  | .dropStreams => False
  | _ => True

instance (move : Move) : Decidable (Keeps move) := by
  cases move <;> unfold Keeps <;> infer_instance

theorem upToDate_step {move : Move} (upToDate : UpToDate player) (keeps : Keeps move)
    (moved : step player move = some next) : UpToDate next := by
  cases move with
  | addStream kind =>
    cases moved
    intro none' noMessage
    exact faithful_congr (funext fun _ => tagsAt_addStream) (upToDate none' noMessage)
  | dropStreams => exact keeps.elim
  | setTags stream tags =>
    simp only [step] at moved
    split at moved
    · cases moved
      exact fun none' => (Nat.succ_ne_zero _ none').elim
    · cases moved
  | tagsCb =>
    simp only [step] at moved
    split at moved
    · cases moved
    · cases moved
      exact fun _ noMessage => (noMessage (by simp)).elim
  | post message =>
    cases moved
    exact fun none' noMessage =>
      upToDate none' fun waits => noMessage (List.mem_append_left _ waits)
  | dispatch =>
    simp only [step] at moved
    split at moved
    case h_1 message rest here waiting =>
      cases moved
      intro none' noMessage
      by_cases told : message = tagsChanged
      · subst told
        trivial
      · have idle : applicationCb message = .idle := by
          cases message with
          | other => rfl
          | application name =>
            exact if_neg fun same => told (congrArg BusMessage.application same)
        have earlier := upToDate none' (by
          rw [waiting, List.mem_cons, not_or]
          exact ⟨fun same => told same.symm, noMessage⟩)
        rw [here] at earlier
        show Faithful player.streams player.text (applicationCb message)
        rw [idle]
        exact earlier
    case h_2 => cases moved
  | statement =>
    obtain ⟨sameStreams, sameEmitting, sameQueue⟩ := analyzeStreams_frame moved
    intro none' noMessage
    rw [sameStreams]
    exact faithful_statement (upToDate (sameEmitting ▸ none') (sameQueue ▸ noMessage)) moved

theorem upToDate_start : UpToDate .start := fun _ _ => by
  have covers : ∀ kind, Covers (fun _ => []) kind 0 := fun kind i _ => rfl
  exact ⟨[], ⟨0, 0, 0, rfl, covers _, covers _, covers _⟩, rfl, nofun⟩

end Moves

/-! ### The text in the end -/

/-- Streams without tags at the end of a kind have no text. -/
theorem flatMap_range_eq {streams : Streams} {kind : Kind} {m n : ℕ}
    (first : Covers streams kind m) (second : Covers streams kind n) :
    ((List.range m).map (Prod.mk kind)).flatMap (shownAt streams) =
      ((List.range n).map (Prod.mk kind)).flatMap (shownAt streams) := by
  -- Both are the text of the streams up to the smaller number.
  have cut : ∀ {low high : ℕ}, Covers streams kind low → low ≤ high →
      ((List.range high).map (Prod.mk kind)).flatMap (shownAt streams) =
        ((List.range low).map (Prod.mk kind)).flatMap (shownAt streams) := by
    intro low high covers ordered
    obtain ⟨more, rfl⟩ := Nat.exists_eq_add_of_le ordered
    rw [List.range_add, List.map_append, List.flatMap_append, List.append_right_eq_self]
    refine List.flatMap_eq_nil_iff.mpr fun stream member => ?_
    obtain ⟨i, inRange, rfl⟩ := List.mem_map.mp member
    obtain ⟨j, _, rfl⟩ := List.mem_map.mp inRange
    simp only [shownAt, covers (low + j) (Nat.le_add_right low j)]
  rcases Nat.le_total m n with ordered | ordered
  · exact (cut first ordered).symm
  · exact cut second ordered

theorem text_eq_shown {streams : Streams} {text : List String}
    (faithful : Faithful streams text .idle) :
    text = shown streams ∧ ∀ stream tags, tagsAt streams stream = some tags →
      (lines stream.1 stream.2 tags).isSome = true := by
  obtain ⟨_, ⟨nVideo, nAudio, nText, rfl, video, audio, text'⟩, rfl, defined⟩ := faithful
  constructor
  · unfold shown order
    rw [List.flatMap_append, List.flatMap_append, List.flatMap_append, List.flatMap_append,
      flatMap_range_eq video covers_length, flatMap_range_eq audio covers_length,
      flatMap_range_eq text' covers_length]
  · intro stream tags found
    refine defined stream ?_ tags found
    obtain ⟨kind, i⟩ := stream
    have below : ∀ {n}, Covers streams kind n → i < n := by
      intro n covers
      by_contra beyond
      cases (covers i (Nat.not_lt.mp beyond)).symm.trans found
    cases kind with
    | video => simp [order, below video]
    | audio => simp [order, below audio]
    | text => simp [order, below text']

section Results

variable {moves : List Move} {player : Player}

/-- **No change is lost.** While the playbin drops no streams: whenever the main thread is in its loop,
no streaming thread has yet to call `tags_cb` and no `tags-changed` message waits, the text view lists
the streams as they are. -/
theorem text_shows_streams (reached : runSteps step .start moves = some player)
    (kept : Along step (fun _ move => Keeps move) .start moves)
    (idle : player.main = .idle) (told : player.emitting = 0)
    (handled : tagsChanged ∉ player.queue) :
    player.text = shown player.streams ∧ ∀ stream tags, tagsAt player.streams stream = some tags →
      (lines stream.1 stream.2 tags).isSome = true := by
  have upToDate := run_invariant_along (I := UpToDate)
    (fun _ _ _ holds keeps moved => upToDate_step holds keeps moved) reached kept upToDate_start
  have faithful := upToDate told handled
  rw [idle] at faithful
  exact text_eq_shown faithful

/-! ### Catching up -/

/-- The moves of the main loop, and those of the threads that have yet to call `tags_cb`. -/
def Own (move : Move) : Prop := move = .tagsCb ∨ move = .dispatch ∨ move = .statement

/-- How many statements `analyze_streams` has left. -/
def statementsLeft (streams : Streams) : Main → ℕ
  | .idle => 0
  | .setText => (streams .video).length + (streams .audio).length + (streams .text).length + 5
  | .getNVideo => (streams .video).length + (streams .audio).length + (streams .text).length + 4
  | .getNAudio nVideo => nVideo + (streams .audio).length + (streams .text).length + 3
  | .getNText nVideo nAudio => nVideo + nAudio + (streams .text).length + 2
  | .loops rest => rest.length + 1

/-- Every stream with tags has lines. -/
def Defined (streams : Streams) : Prop :=
  ∀ stream tags, tagsAt streams stream = some tags → (lines stream.1 stream.2 tags).isSome = true

theorem statement_of_defined (defined : Defined player.streams) (busy : player.main ≠ .idle) :
    ∃ next, analyzeStreams player = some next ∧
      statementsLeft next.streams next.main < statementsLeft player.streams player.main := by
  unfold analyzeStreams
  split
  case h_1 here => exact (busy here).elim
  case h_7 stream rest here =>
    split
    case h_1 =>
      refine ⟨_, rfl, ?_⟩
      simp [here, statementsLeft]
    case h_2 tags found =>
      obtain ⟨pieces, written⟩ := Option.isSome_iff_exists.mp (defined stream tags found)
      refine ⟨_, by rw [written]; rfl, ?_⟩
      simp [here, statementsLeft]
  all_goals
    rename_i here
    refine ⟨_, rfl, ?_⟩
    simp [here, statementsLeft, order]
    try omega

/-- What is left to do: the calls of `tags_cb`, then the messages, then the statements. -/
def leftToDo (player : Player) : ℕ × ℕ × ℕ :=
  (player.emitting, player.queue.length, statementsLeft player.streams player.main)

theorem own_move (defined : Defined player.streams)
    (unsettled : ¬ (player.main = .idle ∧ player.emitting = 0 ∧ player.queue = [])) :
    ∃ move next, Own move ∧ step player move = some next ∧ next.streams = player.streams ∧
      WellFoundedRelation.rel (leftToDo next) (leftToDo player) := by
  by_cases busy : player.main = .idle
  · by_cases none' : player.emitting = 0
    · cases waiting : player.queue with
      | nil => exact (unsettled ⟨busy, none', waiting⟩).elim
      | cons message rest =>
        refine ⟨.dispatch, { player with queue := rest, main := applicationCb message },
          Or.inr (Or.inl rfl), by simp only [step, busy, waiting], rfl, ?_⟩
        refine Prod.Lex.right _ (Prod.Lex.left _ _ ?_)
        show rest.length < player.queue.length
        rw [waiting]
        exact Nat.lt_succ_self _
    · refine ⟨.tagsCb, _, Or.inl rfl, if_neg none', rfl, Prod.Lex.left _ _ ?_⟩
      exact Nat.sub_lt (Nat.pos_of_ne_zero none') Nat.one_pos
  · obtain ⟨next, moved, fewer⟩ := statement_of_defined defined busy
    obtain ⟨sameStreams, sameEmitting, sameQueue⟩ := analyzeStreams_frame moved
    refine ⟨.statement, next, Or.inr (Or.inr rfl), moved, sameStreams, ?_⟩
    unfold leftToDo
    rw [sameEmitting, sameQueue]
    exact Prod.Lex.right _ (Prod.Lex.right _ fewer)

/-- **The text catches up.** From every reachable state in which each video stream with tags has a
codec, the main loop and the threads that have yet to call `tags_cb` can go on, by themselves, to one
in which all messages are handled and the text view lists the streams. -/
theorem text_catches_up (reached : runSteps step .start moves = some player)
    (kept : Along step (fun _ move => Keeps move) .start moves)
    (defined : Defined player.streams) :
    ∃ more final, (∀ move ∈ more, Own move) ∧ runSteps step player more = some final ∧
      final.main = .idle ∧ final.emitting = 0 ∧ final.queue = [] ∧
      final.streams = player.streams ∧ final.text = shown player.streams := by
  have upToDate := run_invariant_along (I := UpToDate)
    (fun _ _ _ holds keeps moved => upToDate_step holds keeps moved) reached kept upToDate_start
  have keeps : ∀ {move}, Own move → Keeps move := by
    rintro _ (rfl | rfl | rfl) <;> trivial
  obtain ⟨more, final, own, goesOn, ⟨same, now⟩, idle, told, handled⟩ :=
    reaches_of_decreases leftToDo
      (I := fun next => next.streams = player.streams ∧ UpToDate next)
      (fun state ⟨same, holds⟩ unsettled => by
        obtain ⟨move, next, own, moved, sameToo, fewer⟩ := own_move (same ▸ defined) unsettled
        exact ⟨move, next, own, moved,
          ⟨sameToo.trans same, upToDate_step holds (keeps own) moved⟩, fewer⟩)
      player ⟨rfl, upToDate⟩
  have faithful := now told (by rw [handled]; nofun)
  rw [idle, same] at faithful
  exact ⟨more, final, own, goesOn, idle, told, handled, same, (text_eq_shown faithful).1⟩

end Results

/-! ### A run -/

/-- An audio stream with a codec. -/
def vorbis : Tags := ⟨none, some "Vorbis", none, none⟩

/-- The tags of a stream change while `analyze_streams` reads them. -/
def changedWhileRead : List Move :=
  [.addStream .audio, .setTags (.audio, 0) (some vorbis), .post .other, .tagsCb, .dispatch,
    .dispatch, .statement, .statement, .statement, .statement, .statement,
    .setTags (.audio, 0) (some { vorbis with languageCode := some "en" }), .statement]

theorem text_catches_up_changedWhileRead :
    ∃ player, runSteps step .start changedWhileRead = some player ∧
      player.text = ["\naudio stream 0:\n", "  codec: Vorbis\n"] ∧
      ∃ more final, (∀ move ∈ more, Own move) ∧ runSteps step player more = some final ∧
        final.text = ["\naudio stream 0:\n", "  codec: Vorbis\n", "  language: en\n"] := by
  obtain ⟨player, reached⟩ : ∃ player, runSteps step .start changedWhileRead = some player :=
    ⟨_, rfl⟩
  have kept : Along step (fun _ move => Keeps move) .start changedWhileRead :=
    along_of_forall (show ∀ move ∈ changedWhileRead, Keeps move by decide)
  have defined : Defined player.streams := by
    cases reached
    rintro ⟨kind, i⟩ tags found
    cases kind with
    | video => cases found
    | audio => rfl
    | text => rfl
  obtain ⟨more, final, own, goesOn, _, _, _, _, text⟩ := text_catches_up reached kept defined
  refine ⟨player, reached, ?_, more, final, own, goesOn, ?_⟩
  · cases reached
    rfl
  · rw [text]
    cases reached
    rfl

/-- The same, with the message of the second change handled. -/
def readAgain : List Move :=
  changedWhileRead ++ [.tagsCb, .dispatch, .statement, .statement, .statement, .statement,
    .statement, .statement]

theorem text_shows_streams_readAgain :
    ∃ player, runSteps step .start readAgain = some player ∧ player.main = .idle ∧
      player.text = shown player.streams ∧
      shown player.streams =
        ["\naudio stream 0:\n", "  codec: Vorbis\n", "  language: en\n"] := by
  obtain ⟨player, reached⟩ : ∃ player, runSteps step .start readAgain = some player := ⟨_, rfl⟩
  have kept : Along step (fun _ move => Keeps move) .start readAgain :=
    along_of_forall (show ∀ move ∈ readAgain, Keeps move by decide)
  have settled : player.main = .idle ∧ player.emitting = 0 ∧ tagsChanged ∉ player.queue := by
    cases reached
    exact ⟨rfl, rfl, by decide⟩
  have text := (text_shows_streams reached kept settled.1 settled.2.1 settled.2.2).1
  refine ⟨player, reached, settled.1, text, ?_⟩
  cases reached
  rfl

end GstPipeline.Tutorials.GtkPlayer
