/-
**Outlines of trees.**

An outline lists the labels of a forest in preorder, each with its depth; printed, each label is a
line that is indented by its depth.

* `append_unique`: a list splits in one way into elements that have a property and a rest that does
  not begin with one. All of this module is decided by it: where a subtree ends, where a line ends and
  where its indentation does.
* `outline_injective`: an outline determines its forest.
* `unlines_injective`: a text determines its lines.
* `render_injective`: so an indented text determines the forest, when no label begins with a blank or
  has a line break.
-/

import Mathlib.Data.List.Basic

namespace GstPipeline.Lib

/-! ### Splitting a list -/

/-- **One way to split.** -/
theorem append_unique {β : Type} {p : β → Prop} {first first' rest rest' : List β}
    (inside : ∀ x ∈ first, p x) (inside' : ∀ x ∈ first', p x)
    (outside : ∀ x ∈ rest.head?, ¬ p x) (outside' : ∀ x ∈ rest'.head?, ¬ p x)
    (same : first ++ rest = first' ++ rest') : first = first' ∧ rest = rest' := by
  induction first generalizing first' with
  | nil =>
    cases first' with
    | nil => exact ⟨rfl, same⟩
    | cons x first' =>
      rw [List.nil_append] at same
      subst same
      exact (outside x rfl (inside' x List.mem_cons_self)).elim
  | cons x first ih =>
    cases first' with
    | nil =>
      rw [List.nil_append] at same
      subst same
      exact (outside' x rfl (inside x List.mem_cons_self)).elim
    | cons y first' =>
      injection same with head tail
      obtain ⟨rfl, rest⟩ := ih (fun z member => inside z (List.mem_cons_of_mem _ member))
        (fun z member => inside' z (List.mem_cons_of_mem _ member)) tail
      exact ⟨by rw [head], rest⟩

theorem map_injective_of_mem {β γ : Type} {f : β → γ} {first second : List β}
    (distinct : ∀ x ∈ first, ∀ y ∈ second, f x = f y → x = y)
    (same : first.map f = second.map f) : first = second := by
  induction first generalizing second with
  | nil => exact (List.map_eq_nil_iff.mp same.symm).symm
  | cons x first ih =>
    cases second with
    | nil => cases same
    | cons y second =>
      injection same with head tail
      rw [distinct x List.mem_cons_self y List.mem_cons_self head,
        ih (fun a left b right =>
          distinct a (List.mem_cons_of_mem _ left) b (List.mem_cons_of_mem _ right)) tail]

/-! ### Forests -/

/-- A forest: the label and the children of its first tree, and the other trees. -/
inductive Forest (α : Type)
  | nil
  | tree (label : α) (children others : Forest α)
  deriving DecidableEq

namespace Forest

variable {α : Type}

def append : Forest α → Forest α → Forest α
  | nil, more => more
  | tree label children others, more => tree label children (others.append more)

/-- A leaf for each label. -/
def leaves : List α → Forest α
  | [] => nil
  | label :: rest => tree label nil (leaves rest)

/-- Every label has the property. -/
def All (p : α → Prop) : Forest α → Prop
  | nil => True
  | tree label children others => p label ∧ children.All p ∧ others.All p

instance decidableAll (p : α → Prop) [DecidablePred p] : ∀ forest : Forest α,
    Decidable (forest.All p)
  | nil => isTrue trivial
  | tree label children others =>
    have : Decidable (children.All p) := decidableAll p children
    have : Decidable (others.All p) := decidableAll p others
    inferInstanceAs (Decidable (p label ∧ children.All p ∧ others.All p))

/-- The labels in preorder, with their depths. -/
def outline (depth : ℕ) : Forest α → List (ℕ × α)
  | nil => []
  | tree label children others =>
    (depth, label) :: (outline (depth + 1) children ++ outline depth others)

variable {forest other : Forest α} {depth : ℕ}

theorem outline_append (more : Forest α) :
    (forest.append more).outline depth = forest.outline depth ++ more.outline depth := by
  induction forest with
  | nil => rfl
  | tree label children others _ ih =>
    simp only [append, outline, ih, List.append_assoc, List.cons_append]

theorem depth_le_of_mem {entry : ℕ × α} (member : entry ∈ forest.outline depth) :
    depth ≤ entry.1 := by
  induction forest generalizing depth with
  | nil => cases member
  | tree label children others inner ih =>
    rcases List.mem_cons.mp member with rfl | member
    · exact Nat.le_refl _
    · rcases List.mem_append.mp member with below | beside
      · exact Nat.le_of_succ_le (inner below)
      · exact ih beside

theorem head_outline {entry : ℕ × α} (first : entry ∈ (forest.outline depth).head?) :
    entry.1 = depth := by
  cases forest with
  | nil => cases first
  | tree label children others =>
    cases first
    rfl

/-- **An outline determines its forest.** -/
theorem outline_injective (same : forest.outline depth = other.outline depth) : forest = other := by
  induction forest generalizing other depth with
  | nil =>
    cases other with
    | nil => rfl
    | tree label children others => cases same
  | tree label children others inner ih =>
    cases other with
    | nil => cases same
    | tree label' children' others' =>
      injection same with head tail
      -- The children are the entries that are deeper, up to the first one that is not.
      have deeper : ∀ (children : Forest α), ∀ entry ∈ children.outline (depth + 1),
          depth < entry.1 := fun _ _ member => depth_le_of_mem member
      have level : ∀ (others : Forest α), ∀ entry ∈ (others.outline depth).head?,
          ¬ depth < entry.1 := fun _ _ first => Nat.not_lt.mpr (Nat.le_of_eq (head_outline first))
      obtain ⟨below, beside⟩ := append_unique (deeper _) (deeper _) (level _) (level _) tail
      rw [inner below, ih beside, (Prod.mk.inj head).2]

theorem all_of_mem {p : α → Prop} (all : forest.All p) {entry : ℕ × α}
    (member : entry ∈ forest.outline depth) : p entry.2 := by
  induction forest generalizing depth with
  | nil => cases member
  | tree label children others inner ih =>
    obtain ⟨here, below, beside⟩ := all
    rcases List.mem_cons.mp member with rfl | member
    · exact here
    · rcases List.mem_append.mp member with deep | flat
      · exact inner below deep
      · exact ih beside flat

end Forest

/-! ### Lines -/

/-- The lines, each with a line break behind it. -/
def unlines (lines : List (List Char)) : List Char := lines.flatMap (· ++ ['\n'])

/-- **A text determines its lines.** -/
theorem unlines_injective {first second : List (List Char)}
    (clean : ∀ line ∈ first, '\n' ∉ line) (clean' : ∀ line ∈ second, '\n' ∉ line)
    (same : unlines first = unlines second) : first = second := by
  induction first generalizing second with
  | nil =>
    cases second with
    | nil => rfl
    | cons line rest => simp [unlines] at same
  | cons line rest ih =>
    cases second with
    | nil => simp [unlines] at same
    | cons line' rest' =>
      simp only [unlines, List.flatMap_cons, List.append_assoc, List.singleton_append] at same
      have within : ∀ {line : List Char}, '\n' ∉ line → ∀ c ∈ line, c ≠ '\n' :=
        fun absent c member equal => absent (equal ▸ member)
      have ends : ∀ {text : List Char}, ∀ c ∈ ('\n' :: text).head?, ¬ c ≠ '\n' := by
        rintro text c ⟨⟩ other
        exact other rfl
      obtain ⟨rfl, behind⟩ := append_unique (within (clean line List.mem_cons_self))
        (within (clean' line' List.mem_cons_self)) ends ends same
      injection behind with _ tail
      rw [ih (fun l member => clean l (List.mem_cons_of_mem _ member))
        (fun l member => clean' l (List.mem_cons_of_mem _ member)) tail]

/-! ### Indented texts -/

/-- A label behind blanks. -/
def indented (width : ℕ) (label : List Char) : List Char := List.replicate width ' ' ++ label

/-- A label that can be told from its indentation and from the next line. -/
def Clean (label : List Char) : Prop := label.head? ≠ some ' ' ∧ '\n' ∉ label

instance (label : List Char) : Decidable (Clean label) := inferInstanceAs (Decidable (_ ∧ _))

theorem indented_injective {width width' : ℕ} {label label' : List Char}
    (clean : Clean label) (clean' : Clean label')
    (same : indented width label = indented width' label') : width = width' ∧ label = label' := by
  have blanks : ∀ {n : ℕ}, ∀ c ∈ List.replicate n ' ', c = ' ' :=
    fun c member => List.eq_of_mem_replicate member
  have starts : ∀ {label : List Char}, Clean label → ∀ c ∈ label.head?, ¬ c = ' ' := by
    rintro label ⟨start, _⟩ c first rfl
    exact start first
  obtain ⟨wide, rest⟩ := append_unique blanks blanks (starts clean) (starts clean') same
  exact ⟨by simpa using congrArg List.length wide, rest⟩

/-- A forest as a text, each label on its line and indented by the width of its depth. -/
def render (width : ℕ → ℕ) (depth : ℕ) (forest : Forest (List Char)) : List Char :=
  unlines ((forest.outline depth).map fun entry => indented (width entry.1) entry.2)

theorem render_tree (width : ℕ → ℕ) (depth : ℕ) (label : List Char)
    (children others : Forest (List Char)) :
    render width depth (.tree label children others) =
      indented (width depth) label ++ '\n' :: (render width (depth + 1) children ++
        render width depth others) := by
  simp only [render, unlines, Forest.outline, List.map_cons, List.map_append, List.flatMap_cons,
    List.flatMap_append, List.append_assoc, List.singleton_append]

theorem render_append (width : ℕ → ℕ) (depth : ℕ) (forest more : Forest (List Char)) :
    render width depth (forest.append more) =
      render width depth forest ++ render width depth more := by
  simp only [render, unlines, Forest.outline_append, List.map_append, List.flatMap_append]

theorem newline_not_mem_indented {width : ℕ} {label : List Char} (clean : Clean label) :
    '\n' ∉ indented width label := by
  intro member
  rcases List.mem_append.mp member with blank | letter
  · exact absurd (List.eq_of_mem_replicate blank) (by decide)
  · exact clean.2 letter

/-- **An indented text determines its forest.** -/
theorem render_injective {width : ℕ → ℕ} (distinct : Function.Injective width) {depth : ℕ}
    {forest other : Forest (List Char)} (clean : forest.All Clean) (clean' : other.All Clean)
    (same : render width depth forest = render width depth other) : forest = other := by
  have broken : ∀ {forest : Forest (List Char)}, forest.All Clean →
      ∀ line ∈ (forest.outline depth).map fun entry => indented (width entry.1) entry.2,
        '\n' ∉ line := by
    intro forest clean line member
    obtain ⟨entry, listed, rfl⟩ := List.mem_map.mp member
    exact newline_not_mem_indented (Forest.all_of_mem clean listed)
  have lines := unlines_injective (broken clean) (broken clean') same
  refine Forest.outline_injective (map_injective_of_mem (fun entry left other right equal => ?_) lines)
  obtain ⟨wide, label⟩ := indented_injective (Forest.all_of_mem clean left)
    (Forest.all_of_mem clean' right) equal
  exact Prod.ext (distinct wide) label

end GstPipeline.Lib
