import LambdaStack.Proofs.Steps
import LambdaStack.Proofs.Text.Segments
import LambdaStack.Text.Blank
import Mathlib.Data.List.DropRight

/-!
# Comma-separated lists

Splitting undoes joining: items without commas and without white space at their ends are read back
from the text in which they are joined by commas, whatever white space is put around them. Of any
text that is not empty there is one item more than there are commas.
-/

namespace LambdaStack
namespace Text

/-- There is no white space at either end. -/
structure Trimmed (chars : List Char) : Prop where
  /-- The first character, if any, is no white space. -/
  head : ∀ c ∈ chars.head?, isBlank c = false
  /-- The last character, if any, is no white space. -/
  last : ∀ c ∈ chars.getLast?, isBlank c = false

theorem trim_eq_rdropWhile (chars : List Char) :
    trim chars = (chars.dropWhile isBlank).rdropWhile isBlank := rfl

/-- White space around a text without any at its ends is all that trimming takes away. -/
theorem trim_padded {front chars back : List Char} (front_blank : ∀ c ∈ front, isBlank c = true)
    (back_blank : ∀ c ∈ back, isBlank c = true) (trimmed : Trimmed chars) :
    trim (front ++ chars ++ back) = chars := by
  have drop_front : (front ++ chars ++ back).dropWhile isBlank =
      (chars ++ back).dropWhile isBlank := by
    rw [List.append_assoc, List.dropWhile_append_of_pos front_blank]
  have drop_back : (chars ++ back).rdropWhile isBlank = chars.rdropWhile isBlank := by
    rw [List.rdropWhile, List.reverse_append,
      List.dropWhile_append_of_pos (by simpa using back_blank), ← List.rdropWhile]
  rw [trim_eq_rdropWhile, drop_front]
  cases chars with
  | nil => rw [List.nil_append, List.dropWhile_eq_nil_iff.mpr back_blank, List.rdropWhile_nil]
  | cons c rest =>
      have starts : isBlank c = false := trimmed.head c rfl
      rw [List.cons_append, List.dropWhile_cons_of_neg (by simp [starts]), ← List.cons_append,
        drop_back, List.rdropWhile_eq_self_iff]
      intro nonempty
      simp [trimmed.last _ (List.getLast?_eq_some_getLast nonempty)]

theorem isBlank_head_dropWhile {c : Char} {chars : List Char}
    (starts : (chars.dropWhile isBlank).head? = some c) : isBlank c = false := by
  have not_blank := List.head?_dropWhile_not isBlank chars
  rw [starts] at not_blank
  exact not_blank

/-- Trimming leaves no white space at either end. -/
theorem trimmed_trim (chars : List Char) : Trimmed (trim chars) where
  head := by
    intro c starts
    rw [trim_eq_rdropWhile, Option.mem_def] at starts
    obtain ⟨rest, rest_eq⟩ := List.rdropWhile_prefix isBlank (chars.dropWhile isBlank)
    have starts_dropped : (chars.dropWhile isBlank).head? = some c := by
      rw [← rest_eq, List.head?_append, starts, Option.some_or]
    exact isBlank_head_dropWhile starts_dropped
  last := by
    intro c ends
    rw [trim, List.getLast?_reverse, Option.mem_def] at ends
    exact isBlank_head_dropWhile ends

theorem mem_of_mem_trim {c : Char} {chars : List Char} (mem : c ∈ trim chars) : c ∈ chars := by
  rw [trim_eq_rdropWhile] at mem
  exact (List.dropWhile_sublist isBlank).mem ((List.rdropWhile_prefix isBlank _).mem mem)

/-- An item of a comma-separated list: it has no comma and no white space at its ends. -/
structure IsItem (item : String) : Prop where
  /-- It has no comma. -/
  no_comma : ',' ∉ item.toList
  /-- It has no white space at its ends. -/
  trimmed : Trimmed item.toList

/-- A text is an item with white space around it. -/
def Padded (item text : String) : Prop :=
  ∃ front back : List Char, (∀ c ∈ front, isBlank c = true) ∧ (∀ c ∈ back, isBlank c = true) ∧
    text.toList = front ++ item.toList ++ back

theorem Padded.trim_eq {item text : String} (padded : Padded item text) (is_item : IsItem item) :
    trim text.toList = item.toList := by
  obtain ⟨front, back, front_blank, back_blank, text_eq⟩ := padded
  rw [text_eq, trim_padded front_blank back_blank is_item.trimmed]

theorem Padded.no_comma {item text : String} (padded : Padded item text) (is_item : IsItem item) :
    ',' ∉ text.toList := by
  obtain ⟨front, back, front_blank, back_blank, text_eq⟩ := padded
  have not_blank {pad : List Char} (pad_blank : ∀ c ∈ pad, isBlank c = true) : ',' ∉ pad :=
    fun mem => absurd (pad_blank ',' mem) (by decide)
  rw [text_eq, List.mem_append, List.mem_append, not_or, not_or]
  exact ⟨⟨not_blank front_blank, is_item.no_comma⟩, not_blank back_blank⟩

section Joined

variable {items texts : List String}

theorem segments_intercalate (nonempty : items ≠ []) (is_item : ∀ item ∈ items, IsItem item)
    (padded : List.Forall₂ Padded items texts) :
    segments ',' (String.intercalate "," texts).toList = texts.map String.toList := by
  have no_comma : ∀ chars ∈ texts.map String.toList, ',' ∉ chars := by
    intro chars mem
    obtain ⟨text, text_mem, rfl⟩ := List.mem_map.mp mem
    obtain ⟨item, item_mem, text_padded⟩ := exists_of_mem_forall₂ padded.flip text_mem
    exact Padded.no_comma text_padded (is_item item item_mem)
  have texts_ne : texts.map String.toList ≠ [] := by
    rintro empty
    rw [List.map_eq_nil_iff.mp empty, List.forall₂_nil_right_iff] at padded
    exact nonempty padded
  rw [segments_eq_splitOn, String.toList_intercalate]
  exact List.splitOn_intercalate ',' no_comma texts_ne

theorem map_trim_of_padded (is_item : ∀ item ∈ items, IsItem item)
    (padded : List.Forall₂ Padded items texts) :
    (texts.map String.toList).map (fun chars => String.ofList (trim chars)) = items := by
  induction padded with
  | nil => rfl
  | cons head _ ih =>
      obtain ⟨first, later⟩ := List.forall_mem_cons.mp is_item
      rw [List.map_cons, List.map_cons, head.trim_eq first, String.ofList_toList, ih later]

/-- Only the single empty item is joined to the empty text. -/
theorem intercalate_ne_empty (nonempty : items ≠ []) (not_single : items ≠ [""])
    (is_item : ∀ item ∈ items, IsItem item) (padded : List.Forall₂ Padded items texts) :
    String.intercalate "," texts ≠ "" := by
  intro empty
  have pieces_eq := segments_intercalate nonempty is_item padded
  have items_eq := map_trim_of_padded is_item padded
  rw [empty] at pieces_eq
  rw [← pieces_eq] at items_eq
  exact not_single items_eq.symm

end Joined

/-- Splitting undoes joining. Items with any white space around them are read back from the text in
which commas join them, unless there is but one and it is empty. Any text that is not empty has one
item more than it has commas, and what is read of it are items. -/
theorem splitOnComma_joined :
    (∀ items texts : List String, items ≠ [] → items ≠ [""] → (∀ item ∈ items, IsItem item) →
      List.Forall₂ Padded items texts →
      splitOnComma (some (String.intercalate "," texts)) = items) ∧
    ∀ text : String, text ≠ "" →
      (splitOnComma (some text)).length = text.toList.count ',' + 1 ∧
      ∀ item ∈ splitOnComma (some text), IsItem item := by
  constructor
  · intro items texts nonempty not_single is_item padded
    rw [splitOnComma, if_neg (intercalate_ne_empty nonempty not_single is_item padded),
      segments_intercalate nonempty is_item padded]
    exact map_trim_of_padded is_item padded
  · intro text nonempty
    rw [splitOnComma, if_neg nonempty, List.length_map, length_segments]
    refine ⟨rfl, fun item mem => ?_⟩
    obtain ⟨segment, segment_mem, rfl⟩ := List.mem_map.mp mem
    constructor
    · rw [String.toList_ofList]
      exact fun comma => not_mem_of_mem_segments segment_mem (mem_of_mem_trim comma)
    · rw [String.toList_ofList]
      exact trimmed_trim segment

/-- Three items, the second of them empty, with white space of several kinds around them. -/
theorem ragged_splitOnComma_joined :
    splitOnComma (some (String.intercalate "," ["\u00a0disk full ", "\t", "cpu\u2003\n"])) =
      ["disk full", "", "cpu"] ∧
    (splitOnComma (some " , disk full,")).length = 3 := by
  have is_item : ∀ item ∈ ["disk full", "", "cpu"], IsItem item := by
    simp only [List.forall_mem_cons]
    refine ⟨⟨by decide, ?_, ?_⟩, ⟨by decide, ?_, ?_⟩, ⟨by decide, ?_, ?_⟩, nofun⟩ <;>
      simp [isBlank]
  have padded : List.Forall₂ Padded ["disk full", "", "cpu"]
      ["\u00a0disk full ", "\t", "cpu\u2003\n"] :=
    .cons ⟨['\u00a0'], [' '], by simp [isBlank], by simp [isBlank], by decide⟩ <|
      .cons ⟨[], ['\t'], by simp, by simp [isBlank], by decide⟩ <|
      .cons ⟨[], ['\u2003', '\n'], by simp, by simp [isBlank], by decide⟩ .nil
  exact ⟨splitOnComma_joined.1 _ _ (by decide) (by decide) is_item padded,
    (splitOnComma_joined.2 " , disk full," (by decide)).1⟩

end Text
end LambdaStack
