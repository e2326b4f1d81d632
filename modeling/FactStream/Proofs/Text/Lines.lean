import FactStream.Text.Line
import Mathlib.Data.List.Basic

/-!
# Cutting into lines

Cutting a stream into lines and decoding each line is the same as decoding the
stream and cutting the text: no character other than the line feed has the
line feed among its bytes.  Lines that were written one after the other are
read back as they were, and a stream may be cut between lines without changing
any of them.
-/

namespace FactStream

section Terminated

variable {Item : Type} [BEq Item] [LawfulBEq Item] {terminator : Item}

/-- No piece is left open at the end. -/
def IsTerminated (terminator : Item) (items : List Item) : Prop :=
  items = [] ∨ items.getLast? = some terminator

omit [LawfulBEq Item] in
@[simp]
theorem terminated_nil : terminated terminator [] = [] := rfl

omit [LawfulBEq Item] in
theorem terminated_ne_nil {items : List Item} (hne : items ≠ []) :
    terminated terminator items ≠ [] := by
  cases items with
  | nil => exact absurd rfl hne
  | cons item items =>
      rw [terminated]
      split
      · simp
      · split <;> simp

theorem terminated_cons_terminator (items : List Item) :
    terminated terminator (terminator :: items) =
      [] :: terminated terminator items := by
  rw [terminated, if_pos (by simp)]

/-- A piece that comes in front goes to the first of the pieces behind it. -/
theorem terminated_append_of_not_mem {piece : List Item} (hne : piece ≠ [])
    (hpiece : terminator ∉ piece) (items : List Item) :
    terminated terminator (piece ++ items) =
      match terminated terminator items with
      | [] => [piece]
      | first :: pieces => (piece ++ first) :: pieces := by
  induction piece with
  | nil => exact absurd rfl hne
  | cons item piece ih =>
      simp only [List.mem_cons, not_or] at hpiece
      have hitem : (item == terminator) = false :=
        beq_false_of_ne (Ne.symm hpiece.1)
      rw [List.cons_append, terminated, if_neg (by simp [hitem])]
      by_cases hnil : piece = []
      · subst hnil
        rfl
      · rw [ih hnil hpiece.2]
        cases terminated terminator items <;> rfl

theorem terminated_append_terminator {piece : List Item}
    (hpiece : terminator ∉ piece) (items : List Item) :
    terminated terminator (piece ++ terminator :: items) =
      piece :: terminated terminator items := by
  by_cases hnil : piece = []
  · rw [hnil, List.nil_append, terminated_cons_terminator]
  · rw [terminated_append_of_not_mem hnil hpiece, terminated_cons_terminator]
    simp

/-- A cut behind a terminator divides no piece. -/
theorem terminated_append {front : List Item}
    (hfront : IsTerminated terminator front) (items : List Item) :
    terminated terminator (front ++ items) =
      terminated terminator front ++ terminated terminator items := by
  induction front with
  | nil => rfl
  | cons item front ih =>
      by_cases hnil : front = []
      · have hitem : item = terminator := by
          simpa [IsTerminated, hnil] using hfront
        subst hnil hitem
        rw [terminated_cons_terminator, List.singleton_append,
          terminated_cons_terminator]
        rfl
      · have htail : IsTerminated terminator front := by
          right
          simpa [IsTerminated, List.getLast?_cons_of_ne_nil hnil] using hfront
        rw [List.cons_append, terminated, terminated, ih htail]
        cases hpieces : terminated terminator front with
        | nil => exact absurd hpieces (terminated_ne_nil hnil)
        | cons first pieces =>
            by_cases hitem : item == terminator <;> simp [hitem]

theorem terminator_not_mem {items piece : List Item}
    (hpiece : piece ∈ terminated terminator items) : terminator ∉ piece := by
  induction items generalizing piece with
  | nil => simp at hpiece
  | cons item items ih =>
      rw [terminated] at hpiece
      split at hpiece
      · rcases List.mem_cons.mp hpiece with rfl | hrest
        · exact List.not_mem_nil
        · exact ih hrest
      · rename_i hitem
        have hne : terminator ≠ item := fun heq => hitem (by simp [heq])
        split at hpiece
        · rw [List.mem_singleton.mp hpiece]
          simpa using hne
        · rename_i first pieces hpieces
          rcases List.mem_cons.mp hpiece with rfl | hrest
          · simpa [hne] using @ih first (by simp [hpieces])
          · exact ih (by simp [hpieces, hrest])

omit [LawfulBEq Item] in
theorem isPrefix_of_terminated_eq_cons {items first : List Item}
    {pieces : List (List Item)}
    (hitems : terminated terminator items = first :: pieces) :
    first <+: items := by
  induction items generalizing first pieces with
  | nil => simp at hitems
  | cons item items ih =>
      rw [terminated] at hitems
      split at hitems
      · rw [← (List.cons.inj hitems).1]
        exact List.nil_prefix
      · split at hitems
        · rw [← (List.cons.inj hitems).1]
          exact List.cons_prefix_cons.mpr ⟨rfl, List.nil_prefix⟩
        · rename_i hhead
          rw [← (List.cons.inj hitems).1]
          exact List.cons_prefix_cons.mpr ⟨rfl, ih hhead⟩

omit [LawfulBEq Item] in
theorem isInfix_of_mem_terminated {items piece : List Item}
    (hpiece : piece ∈ terminated terminator items) : piece <:+: items := by
  induction items generalizing piece with
  | nil => simp at hpiece
  | cons item items ih =>
      cases hpieces : terminated terminator (item :: items) with
      | nil => simp [hpieces] at hpiece
      | cons first pieces =>
          rw [hpieces] at hpiece
          rcases List.mem_cons.mp hpiece with rfl | hrest
          · exact (isPrefix_of_terminated_eq_cons hpieces).isInfix
          · refine List.infix_cons (ih ?_)
            rw [terminated] at hpieces
            split at hpieces
            · rwa [(List.cons.inj hpieces).2]
            · split at hpieces
              · simp [← (List.cons.inj hpieces).2] at hrest
              · rename_i hhead
                rw [hhead, (List.cons.inj hpieces).2]
                exact List.mem_cons_of_mem _ hrest

end Terminated

/-- The line feed is a byte of no other character. -/
theorem eq_lineFeed_of_mem_utf8EncodeChar {character : Char}
    (hmem : lineFeed ∈ String.utf8EncodeChar character) : character = '\n' := by
  rw [lineFeed] at hmem
  have hbyte : ∀ value : Nat,
      (10 : UInt8) = UInt8.ofNat value ↔ value % 256 = 10 := by
    intro value
    rw [← UInt8.toNat_inj, UInt8.toNat_ofNat']
    exact eq_comm
  unfold String.utf8EncodeChar at hmem
  simp only at hmem
  split at hmem
  · rename_i hsmall
    rw [List.mem_singleton, hbyte] at hmem
    apply Char.toNat_inj.mp
    change character.val.toNat = 10
    omega
  · split at hmem
    · simp only [List.mem_cons, List.not_mem_nil, or_false, hbyte] at hmem
      omega
    · split at hmem
      · simp only [List.mem_cons, List.not_mem_nil, or_false, hbyte] at hmem
        omega
      · simp only [List.mem_cons, List.not_mem_nil, or_false, hbyte] at hmem
        omega

/-- What is decoded encodes to the bytes it was decoded from. -/
theorem Bytes.encode_of_decode? {bytes : Bytes} {text : Text}
    (hdecode : bytes.decode? = some text) : text.encode = bytes := by
  obtain ⟨characters, hfound, rfl⟩ := Option.map_eq_some_iff.mp hdecode
  have hsome : bytes.toByteArray.utf8Decode?.isSome := by
    rw [hfound]
    rfl
  have hencode := @ByteArray.utf8Encode_get_utf8Decode? _ hsome
  simp only [hfound, Option.get_some, List.utf8Encode] at hencode
  exact List.toByteArray_inj.mp hencode

namespace Text

theorem encode_cons (character : Char) (text : Text) :
    encode (character :: text) =
      String.utf8EncodeChar character ++ encode text := rfl

/-- A text has line feeds where its bytes have them. -/
theorem lineFeed_mem_encode_iff {text : Text} :
    lineFeed ∈ text.encode ↔ '\n' ∈ text := by
  rw [encode, List.mem_flatMap]
  constructor
  · rintro ⟨character, hmem, hbyte⟩
    rwa [← eq_lineFeed_of_mem_utf8EncodeChar hbyte]
  · intro hmem
    exact ⟨'\n', hmem, by decide⟩

/-- Cutting the bytes of a text into lines cuts the text. -/
theorem lines_encode (text : Text) :
    Bytes.lines text.encode = text.lines.map encode := by
  rw [Bytes.lines, lines]
  induction text with
  | nil => rfl
  | cons character text ih =>
      rw [encode_cons]
      by_cases hfeed : character = '\n'
      · subst hfeed
        rw [terminated_cons_terminator, List.map_cons, ← ih]
        exact terminated_cons_terminator _
      · have hbyte : lineFeed ∉ String.utf8EncodeChar character :=
          fun hmem => hfeed (eq_lineFeed_of_mem_utf8EncodeChar hmem)
        have hsingle : '\n' ∉ [character] := by
          simpa using Ne.symm hfeed
        rw [terminated_append_of_not_mem String.utf8EncodeChar_ne_nil hbyte, ih,
          ← List.singleton_append (l := text),
          terminated_append_of_not_mem (by simp) hsingle]
        cases terminated '\n' text with
        | nil => simp [encode]
        | cons first pieces => simp [encode]

/-- What is read from the decoded and trimmed lines of an encoded text is read
from the trimmed lines of the text. -/
theorem filterMap_lines_encode {Item : Type} (read? : Text → Option Item)
    (text : Text) :
    ((Bytes.lines text.encode).filterMap fun line =>
        line.decode?.bind fun decoded => read? decoded.trim) =
      text.lines.filterMap fun line => read? line.trim := by
  rw [lines_encode, List.filterMap_map]
  apply List.filterMap_congr
  intro line _
  rw [Function.comp_apply, Bytes.decode?_encode, Option.bind_some]

/-- Every cut between the splits of a text is between two of its lines: behind
a line feed, or where nothing comes before or nothing behind. -/
def CutsAtLines : List Text → Prop
  | [] => True
  | split :: splits =>
      (IsTerminated '\n' split ∨ splits.flatten = []) ∧ CutsAtLines splits

/-- Cutting a text between its lines leaves the lines as they are. -/
theorem lines_flatten {splits : List Text} (hcuts : CutsAtLines splits) :
    lines splits.flatten = splits.flatMap lines := by
  induction splits with
  | nil => rfl
  | cons split splits ih =>
      rw [List.flatten_cons, List.flatMap_cons, ← ih hcuts.2]
      rcases hcuts.1 with hterminated | hnil
      · exact terminated_append hterminated splits.flatten
      · rw [hnil, List.append_nil]
        exact (List.append_nil _).symm

theorem lineFeed_not_mem_of_mem_lines {text line : Text}
    (hline : line ∈ text.lines) : '\n' ∉ line :=
  terminator_not_mem hline

@[simp]
theorem ofLines_cons (line : Text) (lines : List Text) :
    ofLines (line :: lines) = line ++ '\n' :: ofLines lines := by
  simp [ofLines]

/-- Lines that were written are read back. -/
theorem lines_ofLines {lines : List Text}
    (hlines : ∀ line ∈ lines, '\n' ∉ line) :
    (ofLines lines).lines = lines := by
  induction lines with
  | nil => rfl
  | cons line lines ih =>
      rw [ofLines_cons, Text.lines,
        terminated_append_terminator (hlines line List.mem_cons_self)]
      congr 1
      exact ih fun other hother =>
        hlines other (List.mem_cons_of_mem line hother)

end Text

end FactStream
