import FactStream.Text.Blank
import Mathlib.Data.List.DropRight

/-!
# Trimming

A run trims every line before its stage sees it.  What matters about trimming
is where it stops: a text that neither begins nor ends with a blank is left as
it is, and what is in front of such an end is never touched.
-/

namespace FactStream.Text

/-- The first character is blank. -/
def beginsBlank (text : Text) : Bool :=
  text.head?.any isBlank

/-- The last character is blank. -/
def endsBlank (text : Text) : Bool :=
  text.getLast?.any isBlank

@[simp]
theorem beginsBlank_cons (first : Char) (rest : Text) :
    beginsBlank (first :: rest) = isBlank first := rfl

theorem beginsBlank_append {front : Text} (rest : Text) (hfront : front ≠ []) :
    beginsBlank (front ++ rest) = beginsBlank front := by
  cases front with
  | nil => exact absurd rfl hfront
  | cons first front => rfl

theorem trimEnd_eq_rdropWhile (text : Text) :
    text.trimEnd = text.rdropWhile isBlank := rfl

theorem trimEnd_isPrefix (text : Text) : text.trimEnd <+: text :=
  List.rdropWhile_prefix isBlank text

theorem trimStart_isSuffix (text : Text) : text.trimStart <:+ text :=
  List.dropWhile_suffix isBlank

theorem trim_isInfix (text : Text) : text.trim <:+: text :=
  (trimEnd_isPrefix text.trimStart).isInfix.trans
    (trimStart_isSuffix text).isInfix

/-- Trimming brings no new characters. -/
theorem mem_of_mem_trim {character : Char} {text : Text}
    (hmem : character ∈ text.trim) : character ∈ text :=
  (trim_isInfix text).subset hmem

theorem trimStart_eq_self {text : Text} (hbegin : text.beginsBlank = false) :
    text.trimStart = text := by
  cases text with
  | nil => rfl
  | cons first rest =>
      rw [beginsBlank_cons] at hbegin
      rw [trimStart, List.dropWhile_cons_of_neg (by simp [hbegin])]

theorem trimEnd_eq_self {text : Text} (hend : text.endsBlank = false) :
    text.trimEnd = text := by
  rw [trimEnd_eq_rdropWhile, List.rdropWhile_eq_self_iff]
  intro hne
  rw [endsBlank, List.getLast?_eq_some_getLast hne] at hend
  simpa using hend

/-- A text with no blank at either end is already trimmed. -/
theorem trim_eq_self {text : Text} (hbegin : text.beginsBlank = false)
    (hend : text.endsBlank = false) : text.trim = text := by
  rw [trim, trimStart_eq_self hbegin, trimEnd_eq_self hend]

theorem beginsBlank_trimStart (text : Text) :
    text.trimStart.beginsBlank = false := by
  have hhead := List.head?_dropWhile_not isBlank text
  rw [beginsBlank, trimStart]
  cases hfirst : (text.dropWhile isBlank).head? with
  | none => rfl
  | some first => simpa [hfirst] using hhead

theorem endsBlank_trimEnd (text : Text) : text.trimEnd.endsBlank = false := by
  by_cases hne : text.rdropWhile isBlank = []
  · rw [trimEnd_eq_rdropWhile, hne]
    rfl
  · rw [trimEnd_eq_rdropWhile, endsBlank, List.getLast?_eq_some_getLast hne]
    simpa using List.rdropWhile_last_not isBlank text hne

/-- A prefix begins as the whole text does, unless it is empty. -/
theorem beginsBlank_of_prefix {front text : Text} (hfront : front <+: text)
    (hbegin : text.beginsBlank = false) : front.beginsBlank = false := by
  obtain ⟨rest, rfl⟩ := hfront
  cases front with
  | nil => rfl
  | cons first front => exact hbegin

theorem beginsBlank_trim (text : Text) : text.trim.beginsBlank = false :=
  beginsBlank_of_prefix (trimEnd_isPrefix _) (beginsBlank_trimStart text)

theorem endsBlank_trim (text : Text) : text.trim.endsBlank = false :=
  endsBlank_trimEnd _

@[simp]
theorem trim_trim (text : Text) : text.trim.trim = text.trim :=
  trim_eq_self (beginsBlank_trim text) (endsBlank_trim text)

/-- What stands in front of a text that is not all blank is not trimmed at its
end. -/
theorem trimEnd_append (front : Text) {rest : Text}
    (hrest : rest.trimEnd ≠ []) :
    (front ++ rest).trimEnd = front ++ rest.trimEnd := by
  have hempty : (rest.reverse.dropWhile isBlank).isEmpty = false := by
    simpa [trimEnd] using hrest
  rw [trimEnd, List.reverse_append, List.dropWhile_append, hempty]
  simp [trimEnd]

theorem trimEnd_append_blank (text : Text) {blanks : Text}
    (hblanks : ∀ character ∈ blanks, isBlank character) :
    (text ++ blanks).trimEnd = text.trimEnd := by
  rw [trimEnd, trimEnd, List.reverse_append, List.dropWhile_append_of_pos]
  intro character hmem
  exact hblanks character (List.mem_reverse.mp hmem)

theorem endsBlank_append (front : Text) {rest : Text} (hrest : rest ≠ []) :
    endsBlank (front ++ rest) = endsBlank rest := by
  rw [endsBlank, List.getLast?_append_of_ne_nil front hrest, endsBlank]

theorem endsBlank_of_blank {text : Text} (hne : text ≠ [])
    (hblank : ∀ character ∈ text, isBlank character) : text.endsBlank := by
  rw [endsBlank, List.getLast?_eq_some_getLast hne]
  exact hblank _ (List.getLast_mem hne)

/-- Blanks put behind a text do not show once it is trimmed. -/
theorem trim_append_blank (text : Text) {blanks : Text}
    (hblanks : ∀ character ∈ blanks, isBlank character) :
    (text ++ blanks).trim = text.trim := by
  have hnil : blanks.dropWhile isBlank = [] :=
    List.dropWhile_eq_nil_iff.mpr hblanks
  rw [trim, trim, trimStart, List.dropWhile_append]
  cases hstart : text.dropWhile isBlank with
  | nil => simp [trimStart, hstart, hnil]
  | cons first rest =>
      rw [trimStart, hstart]
      exact trimEnd_append_blank (first :: rest) hblanks

/-- Nor do blanks put in front of it. -/
theorem trim_blank_append {blanks : Text}
    (hblanks : ∀ character ∈ blanks, isBlank character) (text : Text) :
    (blanks ++ text).trim = text.trim := by
  rw [trim, trim, trimStart, List.dropWhile_append_of_pos hblanks, trimStart]

/-- What trimming at the end takes away is blank. -/
theorem exists_trimEnd_append (text : Text) :
    ∃ blanks : Text, text.trimEnd ++ blanks = text ∧
      ∀ character ∈ blanks, isBlank character :=
  ⟨text.rtakeWhile isBlank, List.rdropWhile_append_rtakeWhile,
    fun _ hmem => List.mem_rtakeWhile_imp hmem⟩

/-- Trimming takes away blanks only. -/
theorem exists_append_trim_append (text : Text) :
    ∃ front rear : Text, (∀ character ∈ front ++ rear, isBlank character) ∧
      text = front ++ text.trim ++ rear := by
  obtain ⟨rear, hrear, hblank⟩ := exists_trimEnd_append text.trimStart
  refine ⟨text.takeWhile isBlank, rear, ?_, ?_⟩
  · exact List.forall_mem_append.mpr
      ⟨fun _ hmem => List.mem_takeWhile_imp hmem, hblank⟩
  · rw [trim, List.append_assoc, hrear, trimStart,
      List.takeWhile_append_dropWhile]

theorem count_trim {character : Char} (hvisible : ¬ isBlank character)
    (text : Text) : text.trim.count character = text.count character := by
  obtain ⟨front, rear, hblank, htext⟩ := exists_append_trim_append text
  rw [List.forall_mem_append] at hblank
  have hfront : front.count character = 0 :=
    List.count_eq_zero.mpr fun hmem => hvisible (hblank.1 character hmem)
  have hrear : rear.count character = 0 :=
    List.count_eq_zero.mpr fun hmem => hvisible (hblank.2 character hmem)
  conv_rhs => rw [htext, List.count_append, List.count_append, hfront, hrear,
    Nat.zero_add, Nat.add_zero]

@[simp]
theorem trim_trimEnd (text : Text) : text.trimEnd.trim = text.trim := by
  obtain ⟨blanks, happend, hblanks⟩ := exists_trimEnd_append text
  rw [← trim_append_blank text.trimEnd hblanks, happend]

theorem trimEnd_ne_nil {text : Text} (hne : text.trim ≠ []) :
    text.trimEnd ≠ [] := by
  intro hnil
  rw [← trim_trimEnd, hnil] at hne
  exact hne rfl

/-- Only blanks are trimmed to nothing. -/
theorem trim_eq_nil_iff {text : Text} :
    text.trim = [] ↔ ∀ character ∈ text, isBlank character := by
  rw [trim, trimEnd_eq_rdropWhile, List.rdropWhile_eq_nil_iff]
  constructor
  · intro hstart character hmem
    rw [← List.takeWhile_append_dropWhile (p := isBlank) (l := text),
      List.mem_append] at hmem
    rcases hmem with hmem | hmem
    · exact List.mem_takeWhile_imp hmem
    · exact hstart character hmem
  · intro hblank character hmem
    exact hblank character ((trimStart_isSuffix text).subset hmem)

theorem forall_isBlank_cons {character : Char} {rest : Text}
    (hcharacter : isBlank character) (hrest : rest.trim = []) :
    ∀ other ∈ character :: rest, isBlank other :=
  List.forall_mem_cons.mpr ⟨hcharacter, trim_eq_nil_iff.mp hrest⟩

theorem trim_ne_nil_of_isInfix {piece text : Text} (hpiece : piece <:+: text)
    (hne : piece.trim ≠ []) : text.trim ≠ [] := by
  intro hnil
  exact hne (trim_eq_nil_iff.mpr fun character hmem =>
    trim_eq_nil_iff.mp hnil character (hpiece.subset hmem))

theorem trim_ne_nil_of_beginsBlank {text : Text} (hne : text ≠ [])
    (hbegin : text.beginsBlank = false) : text.trim ≠ [] := by
  intro hnil
  cases text with
  | nil => exact hne rfl
  | cons first rest =>
      have hfirst := trim_eq_nil_iff.mp hnil first List.mem_cons_self
      rw [beginsBlank_cons, hfirst] at hbegin
      exact Bool.noConfusion hbegin

/-- What stands between two visible characters is not trimmed. -/
theorem mem_trim_of_isInfix {front rest text : Text} {character : Char}
    (hwithin : front ++ character :: rest <:+: text)
    (hfront : front.trim ≠ []) (hrest : rest.trim ≠ []) :
    character ∈ text.trim := by
  obtain ⟨before, behind, htext⟩ := hwithin
  have hsplit : text =
      (before ++ front) ++ character :: (rest ++ behind) := by
    rw [← htext]
    simp
  have hfront_all : (before ++ front).dropWhile isBlank ≠ [] := by
    intro hnil
    exact trim_ne_nil_of_isInfix (List.suffix_append before front).isInfix
      hfront (trim_eq_nil_iff.mpr (List.dropWhile_eq_nil_iff.mp hnil))
  have hrest_all : Text.trimEnd (rest ++ behind) ≠ [] :=
    trimEnd_ne_nil (trim_ne_nil_of_isInfix
      (List.prefix_append rest behind).isInfix hrest)
  have hend : Text.trimEnd (character :: (rest ++ behind)) =
      character :: Text.trimEnd (rest ++ behind) :=
    trimEnd_append [character] hrest_all
  rw [hsplit, trim, trimStart, List.dropWhile_append,
    if_neg (by simpa using hfront_all), trimEnd_append _ (by simp [hend]), hend]
  exact List.mem_append_right _ List.mem_cons_self

end FactStream.Text
