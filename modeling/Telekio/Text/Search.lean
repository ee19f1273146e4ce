import Mathlib.Data.List.Infix
import Mathlib.Data.String.Basic

/-!
# Searching texts

`contains`, `starts_with`, `strip_prefix` and `lines` of `str`, over the
characters of a text.
-/

namespace Telekio.Text

def contains (text pattern : String) : Bool :=
  decide (pattern.toList <:+: text.toList)

def startsWith (text pattern : String) : Bool :=
  decide (pattern.toList <+: text.toList)

/-- What follows a pattern at the start. -/
def stripPrefix (text pattern : String) : Option String :=
  if startsWith text pattern then
    some (String.ofList (text.toList.drop pattern.toList.length))
  else
    none

/-- One line of a text, with its end. -/
def line (text : String) : String :=
  text ++ "\n"

/-- Lines end with `\n` or `\r\n`; what follows the last end is a line only
if there is something. -/
def lines (text : String) : List String :=
  let pieces := text.toList.splitOn '\n'
  let ended := pieces.dropLast.map fun piece =>
    if piece.getLast? = some '\r' then piece.dropLast else piece
  let last := pieces.getLast?.toList.filter (· ≠ [])
  (ended ++ last).map String.ofList

section Separated

variable {α : Type*} {separator : α} {pattern before after : List α}

theorem prefix_of_prefix_append_cons (apart : separator ∉ pattern)
    (starts : pattern <+: before ++ separator :: after) :
    pattern <+: before := by
  induction before generalizing pattern with
  | nil =>
      cases pattern with
      | nil => exact List.nil_prefix
      | cons first rest =>
          obtain ⟨rfl, -⟩ := List.cons_prefix_cons.mp starts
          exact absurd List.mem_cons_self apart
  | cons head tail ih =>
      cases pattern with
      | nil => exact List.nil_prefix
      | cons first rest =>
          obtain ⟨rfl, remains⟩ := List.cons_prefix_cons.mp starts
          have apartRest : separator ∉ rest :=
            fun member => apart (List.mem_cons_of_mem _ member)
          exact List.cons_prefix_cons.mpr ⟨rfl, ih apartRest remains⟩

/-- A pattern that does not have the separator lies on one side of it. -/
theorem infix_append_cons_iff (apart : separator ∉ pattern) :
    pattern <:+: before ++ separator :: after ↔
      pattern <:+: before ∨ pattern <:+: after := by
  constructor
  · intro found
    induction before with
    | nil =>
        rcases List.infix_cons_iff.mp found with starts | later
        · have empty : pattern <+: [] :=
            prefix_of_prefix_append_cons apart starts
          exact Or.inl empty.isInfix
        · exact Or.inr later
    | cons head tail ih =>
        rcases List.infix_cons_iff.mp found with starts | later
        · have within : pattern <+: head :: tail :=
            prefix_of_prefix_append_cons apart starts
          exact Or.inl within.isInfix
        · rcases ih later with inside | outside
          · exact Or.inl (inside.trans (List.suffix_cons _ _).isInfix)
          · exact Or.inr outside
  · rintro (inside | outside)
    · exact inside.trans (List.prefix_append _ _).isInfix
    · exact (outside.trans (List.suffix_cons _ _).isInfix).trans
        (List.suffix_append _ _).isInfix

theorem exists_mem_of_intercalate {pieces : List (List α)}
    (apart : separator ∉ pattern) (nonempty : pieces ≠ [])
    (found : pattern <:+: [separator].intercalate pieces) :
    ∃ piece ∈ pieces, pattern <:+: piece := by
  induction pieces with
  | nil => exact absurd rfl nonempty
  | cons piece rest ih =>
      cases rest with
      | nil =>
          rw [List.intercalate_singleton] at found
          exact ⟨piece, List.mem_cons_self, found⟩
      | cons next rest =>
          rw [List.intercalate_cons_cons, List.append_assoc,
            List.singleton_append] at found
          rcases (infix_append_cons_iff apart).mp found with inside | later
          · exact ⟨piece, List.mem_cons_self, inside⟩
          · obtain ⟨other, listed, inside⟩ := ih (by simp) later
            exact ⟨other, List.mem_cons_of_mem _ listed, inside⟩

end Separated

variable {text rest pattern : String}

theorem contains_iff :
    contains text pattern = true ↔ pattern.toList <:+: text.toList :=
  decide_eq_true_iff

theorem startsWith_iff :
    startsWith text pattern = true ↔ pattern.toList <+: text.toList :=
  decide_eq_true_iff

theorem startsWith_of_append
    (starts : startsWith text (pattern ++ rest) = true) :
    startsWith text pattern = true := by
  rw [startsWith_iff, String.toList_append] at starts
  exact startsWith_iff.mpr ((List.prefix_append _ _).trans starts)

/-- A text that starts with another one is the other one, or longer. -/
theorem lt_utf8ByteSize_iff (starts : startsWith text pattern = true) :
    pattern.utf8ByteSize < text.utf8ByteSize ↔ text ≠ pattern := by
  obtain ⟨rest, split⟩ := startsWith_iff.mp starts
  have whole : text = pattern ++ String.ofList rest := by
    apply String.toList_inj.mp
    rw [String.toList_append, String.toList_ofList, split]
  have size : text.utf8ByteSize =
      pattern.utf8ByteSize + (String.ofList rest).utf8ByteSize := by
    rw [whole, String.utf8ByteSize_append]
  constructor
  · rintro longer rfl
    omega
  · intro different
    have proper : (String.ofList rest).utf8ByteSize ≠ 0 := by
      intro empty
      rw [String.utf8ByteSize_eq_zero_iff] at empty
      rw [empty, String.append_empty] at whole
      exact different whole
    omega

theorem stripPrefix_eq_none (other : startsWith text pattern = false) :
    stripPrefix text pattern = none := by
  rw [stripPrefix, if_neg (by simp [other])]

theorem contains_append_left (found : contains text pattern = true) :
    contains (text ++ rest) pattern = true := by
  rw [contains_iff, String.toList_append]
  exact (contains_iff.mp found).trans (List.prefix_append _ _).isInfix

theorem contains_append_right (found : contains rest pattern = true) :
    contains (text ++ rest) pattern = true := by
  rw [contains_iff, String.toList_append]
  exact (contains_iff.mp found).trans (List.suffix_append _ _).isInfix

theorem contains_self : contains text text = true :=
  contains_iff.mpr List.infix_rfl

/-- A pattern without line ends is looked for line by line. -/
theorem contains_line_append (inLine : '\n' ∉ pattern.toList) :
    contains (line text ++ rest) pattern =
      (contains text pattern || contains rest pattern) := by
  rw [Bool.eq_iff_iff, Bool.or_eq_true, contains_iff, contains_iff,
    contains_iff, line, String.toList_append, String.toList_append]
  have ending : "\n".toList = ['\n'] := by simp
  rw [ending, List.append_assoc, List.singleton_append]
  exact infix_append_cons_iff inLine

theorem contains_line (inLine : '\n' ∉ pattern.toList) :
    contains (line text) pattern =
      (contains text pattern || contains "" pattern) := by
  rw [← contains_line_append inLine, String.append_empty]

/-- A pattern without line ends that is in a text is in one of its lines. -/
theorem lines_any_contains (proper : pattern.toList ≠ [])
    (inLine : '\n' ∉ pattern.toList) (noReturn : '\r' ∉ pattern.toList)
    (found : contains text pattern = true) :
    (lines text).any (contains · pattern) = true := by
  have whole : pattern.toList <:+:
      ['\n'].intercalate (text.toList.splitOn '\n') := by
    rw [List.intercalate_splitOn]
    exact contains_iff.mp found
  obtain ⟨piece, listed, inside⟩ :=
    exists_mem_of_intercalate inLine (List.splitOn_ne_nil _ _) whole
  rw [List.any_eq_true]
  unfold lines
  rw [← List.dropLast_append_getLast (List.splitOn_ne_nil '\n' text.toList),
    List.mem_append, List.mem_singleton] at listed
  rcases listed with ended | rfl
  · -- a line end of two characters takes one off the piece
    refine ⟨String.ofList (if piece.getLast? = some '\r' then piece.dropLast
      else piece), List.mem_map.mpr ⟨_, List.mem_append_left _
        (List.mem_map.mpr ⟨piece, ended, rfl⟩), rfl⟩, ?_⟩
    rw [contains_iff, String.toList_ofList]
    split
    · rename_i last
      have split : piece.dropLast ++ ['\r'] = piece :=
        List.dropLast_append_getLast? _ last
      rw [← split] at inside
      rcases (infix_append_cons_iff noReturn).mp inside with before | after
      · exact before
      · exact absurd (List.infix_nil.mp after) proper
    · exact inside
  · refine ⟨String.ofList ((text.toList.splitOn '\n').getLast
      (List.splitOn_ne_nil _ _)), List.mem_map.mpr ⟨_,
        List.mem_append_right _ (List.mem_filter.mpr ⟨?_, ?_⟩), rfl⟩, ?_⟩
    · rw [List.getLast?_eq_some_getLast (List.splitOn_ne_nil _ _)]
      simp
    · rw [decide_eq_true_iff]
      intro empty
      rw [empty] at inside
      exact proper (List.infix_nil.mp inside)
    · rw [contains_iff, String.toList_ofList]
      exact inside

/-- A text without a character of the pattern. -/
theorem not_contains_of_notMem {character : Char}
    (needed : character ∈ pattern.toList)
    (missing : character ∉ text.toList) : contains text pattern = false := by
  rw [contains, decide_eq_false_iff_not]
  exact fun found => missing (found.subset needed)

end Telekio.Text
