/-
**Selecting an audio stream by its number.**

`handle_keyboard` of `custom_playbin.c` converts the line to a number with `g_ascii_strtoull`, narrows
it to an `int` and sets `current-audio` to it, if there is a stream with that number. It does not
look at where the conversion stopped, and the narrowing may turn a number that is out of bounds into
one that is not.

* `Selects`: what a line asks for. The stream is selected whose number the line is; a line that is
  not the number of a stream changes nothing.
* `selects_iff`: a line gets what it asks for exactly when it is the number of a stream, or the number
  that it begins with is too large for 64 bits, or its lowest 32 bits are out of bounds.

`g_ascii_strtoull` is a parameter, with what GLib says about it (`StrtoullSpec`).
-/

import GstPipeline.Lib.Int32
import GstPipeline.Lib.Numeral

namespace GstPipeline.Tutorials.CustomPlaybin

open GstPipeline.Lib

/-- What is documented of `g_ascii_strtoull`, in base 0. -/
structure StrtoullSpec (gAsciiStrtoull : String → ℕ) : Prop where
  noDigits : ∀ str, reading str.toList = none → gAsciiStrtoull str = 0
  value : ∀ str found, reading str.toList = some found → found.size < 2 ^ 64 →
    (gAsciiStrtoull str : ℤ) = found.value % 2 ^ 64
  overflow : ∀ str found, reading str.toList = some found → 2 ^ 64 ≤ found.size →
    gAsciiStrtoull str = 2 ^ 64 - 1

/-- The fields of `CustomData_t` that selecting uses, the values that `current-audio` of the playbin
was set to, and the lines that were printed. -/
structure CustomData where
  nAudio : ℤ
  typed : InInt32 nAudio
  audioSets : List ℤ
  printed : List String

/-- `handle_keyboard`. `read` is the line, where `g_io_channel_read_line` returns
`G_IO_STATUS_NORMAL`. -/
def handleKeyboard (gAsciiStrtoull : String → ℕ) (data : CustomData) (read : Option String) :
    CustomData × Bool :=
  match read with
  | some str =>
    let index := toInt32 (gAsciiStrtoull str)
    if index < 0 ∨ index ≥ data.nAudio then
      ({ data with printed := data.printed ++ ["Index out of bounds \n"] }, true)
    else
      ({ data with
          printed := data.printed ++ [s!"Setting current audio stream to {index} \n"]
          audioSets := data.audioSets ++ [index] }, true)
  | none => (data, true)

/-- The line is the number of a stream. -/
def Names (data : CustomData) (line : String) (k : ℤ) : Prop :=
  IsNumeral line.toList k ∧ 0 ≤ k ∧ k < data.nAudio

instance (data : CustomData) (line : String) (k : ℤ) : Decidable (Names data line k) :=
  inferInstanceAs (Decidable (_ ∧ _))

/-- What a line asks for. -/
structure Selects (gAsciiStrtoull : String → ℕ) (data : CustomData) (line : String) : Prop where
  sets : ∀ k, (handleKeyboard gAsciiStrtoull data (some line)).1.audioSets = data.audioSets ++ [k] ↔
    Names data line k
  leaves : (∀ k, ¬ Names data line k) →
    (handleKeyboard gAsciiStrtoull data (some line)).1.audioSets = data.audioSets

/-- The line is the number of a stream, or begins with a number that does not fit 64 bits or whose
lowest 32 bits are out of bounds. -/
def Clear (data : CustomData) (line : String) : Prop :=
  Names data line (leading line.toList) ∨ 2 ^ 64 ≤ (leading line.toList).natAbs ∨
    data.nAudio ≤ leading line.toList % 2 ^ 32

instance (data : CustomData) (line : String) : Decidable (Clear data line) :=
  inferInstanceAs (Decidable (_ ∨ _))

section Lines

variable {gAsciiStrtoull : String → ℕ} {data : CustomData} {line : String} {k : ℤ}

/-- The documentation, in terms of the number that the line begins with. -/
theorem gAsciiStrtoull_eq (spec : StrtoullSpec gAsciiStrtoull) :
    (gAsciiStrtoull line : ℤ) =
      if (leading line.toList).natAbs < 2 ^ 64 then leading line.toList % 2 ^ 64
      else 2 ^ 64 - 1 := by
  cases read : reading line.toList with
  | none => simp [leading, read, spec.noDigits line read]
  | some found =>
    rw [leading, read, Option.map_some, Option.getD_some, found.natAbs_value]
    split
    · exact spec.value line found read ‹_›
    · rw [spec.overflow line found read (Nat.not_lt.mp ‹_›)]
      rfl

/-- **What one line does.** -/
theorem audioSets_handleKeyboard (data : CustomData) (line : String)
    (spec : StrtoullSpec gAsciiStrtoull) :
    (handleKeyboard gAsciiStrtoull data (some line)).1.audioSets = data.audioSets ++
      if (leading line.toList).natAbs < 2 ^ 64 ∧ leading line.toList % 2 ^ 32 < data.nAudio then
        [leading line.toList % 2 ^ 32]
      else [] := by
  have accepted := toInt32_lt_iff (x := gAsciiStrtoull line) data.typed
  have narrowed : (leading line.toList).natAbs < 2 ^ 64 →
      (gAsciiStrtoull line : ℤ) % 2 ^ 32 = leading line.toList % 2 ^ 32 := by
    intro fits
    rw [gAsciiStrtoull_eq spec, if_pos fits]
    omega
  have typed := data.typed.2
  unfold handleKeyboard
  dsimp only
  by_cases fits : (leading line.toList).natAbs < 2 ^ 64
  · rw [narrowed fits] at accepted
    by_cases below : leading line.toList % 2 ^ 32 < data.nAudio
    · obtain ⟨nonneg, bound⟩ := accepted.mpr below
      rw [if_neg (by omega), if_pos ⟨fits, below⟩, toInt32_of_nonneg nonneg, narrowed fits]
    · rw [if_pos (by omega), if_neg (fun both => below both.2), List.append_nil]
  · have greatest : (gAsciiStrtoull line : ℤ) % 2 ^ 32 = 2 ^ 32 - 1 := by
      rw [gAsciiStrtoull_eq spec, if_neg fits]
      rfl
    rw [greatest] at accepted
    rw [if_pos (by omega), if_neg (fun both => fits both.1), List.append_nil]

/-- The number of a stream is accepted as it is. -/
theorem leading_of_names (names : Names data line k) :
    leading line.toList = k ∧ (leading line.toList).natAbs < 2 ^ 64 ∧
      leading line.toList % 2 ^ 32 = k := by
  obtain ⟨numeral, nonneg, below⟩ := names
  have typed := data.typed.2
  rw [numeral.leading_eq]
  exact ⟨rfl, by omega, by omega⟩

/-- **Selecting by number.** -/
theorem selects_iff (spec : StrtoullSpec gAsciiStrtoull) :
    Selects gAsciiStrtoull data line ↔ Clear data line := by
  have effect := audioSets_handleKeyboard data line spec
  constructor
  · intro selects
    by_contra unclear
    obtain ⟨nameless, fits, low⟩ : ¬ Names data line (leading line.toList) ∧
        ¬ 2 ^ 64 ≤ (leading line.toList).natAbs ∧
          ¬ data.nAudio ≤ leading line.toList % 2 ^ 32 := by
      simpa only [Clear, not_or] using unclear
    rw [if_pos ⟨Nat.not_le.mp fits, Int.not_le.mp low⟩] at effect
    have names := (selects.sets _).mp effect
    rw [← (leading_of_names names).1] at names
    exact nameless names
  · intro clear
    by_cases named : Names data line (leading line.toList)
    · obtain ⟨_, fits, same⟩ := leading_of_names named
      rw [same, if_pos ⟨fits, named.2.2⟩] at effect
      refine ⟨fun k => ?_, fun none => (none _ named).elim⟩
      rw [effect, List.append_cancel_left_eq, List.singleton_inj]
      constructor
      · rintro rfl
        exact named
      · exact fun names => (leading_of_names names).1
    · have nameless : ∀ k, ¬ Names data line k := fun k names =>
        named ((leading_of_names names).1.symm ▸ names)
      have rejected : ¬ ((leading line.toList).natAbs < 2 ^ 64 ∧
          leading line.toList % 2 ^ 32 < data.nAudio) := by
        rintro ⟨fits, low⟩
        rcases clear with names | large | high
        · exact named names
        · exact Nat.not_lt.mpr large fits
        · exact Int.not_lt.mpr high low
      rw [if_neg rejected, List.append_nil] at effect
      refine ⟨fun k => ?_, fun _ => effect⟩
      rw [effect]
      simp [nameless k]

/-- A line that selects what it does not name. -/
theorem not_selects (set : (handleKeyboard gAsciiStrtoull data (some line)).1.audioSets =
    data.audioSets ++ [k]) (nameless : ¬ Names data line k) :
    ¬ Selects gAsciiStrtoull data line :=
  fun selects => nameless ((selects.sets k).mp set)

end Lines

/-! ### Some lines -/

/-- A function that does what GLib says. -/
def strtoull (str : String) : ℕ :=
  match reading str.toList with
  | none => 0
  | some found => if found.size < 2 ^ 64 then (found.value % 2 ^ 64).toNat else 2 ^ 64 - 1

theorem strtoull_spec : StrtoullSpec strtoull := by
  constructor
  · intro str read
    rw [strtoull, read]
  · intro str found read fits
    rw [strtoull, read]
    dsimp only
    rw [if_pos fits]
    omega
  · intro str found read large
    rw [strtoull, read]
    dsimp only
    rw [if_neg (Nat.not_lt.mpr large)]

def twoStreams : CustomData := ⟨2, by decide, [], []⟩

theorem selects_one : Selects strtoull twoStreams "1\n" ∧ Selects strtoull twoStreams "-1\n" ∧
    Selects strtoull twoStreams "18446744073709551617\n" :=
  ⟨(selects_iff strtoull_spec).mpr (by decide +kernel),
    (selects_iff strtoull_spec).mpr (by decide +kernel),
    (selects_iff strtoull_spec).mpr (by decide +kernel)⟩

/-- **Lines that select a stream without being its number.** -/
theorem selects_unnamed : ¬ Selects strtoull twoStreams "stop\n" ∧
    ¬ Selects strtoull twoStreams "1abc\n" ∧ ¬ Selects strtoull twoStreams "4294967297\n" ∧
      ¬ Selects strtoull twoStreams "-4294967295\n" :=
  ⟨not_selects (k := 0) (by decide +kernel) (by decide +kernel),
    not_selects (k := 1) (by decide +kernel) (by decide +kernel),
    not_selects (k := 1) (by decide +kernel) (by decide +kernel),
    not_selects (k := 1) (by decide +kernel) (by decide +kernel)⟩

end GstPipeline.Tutorials.CustomPlaybin
