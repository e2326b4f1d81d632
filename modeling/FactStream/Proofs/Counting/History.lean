import FactStream.Proofs.Counting.Streaming
import FactStream.Proofs.Stage.History
import Mathlib.Algebra.Order.BigOperators.Group.List
import Mathlib.Data.List.Infix

/-!
# Counters told by the counts read so far

A counter reads every line as a count, or refuses it, and it refuses a count that
takes a sum out of range.  What is left to be said of a counter is which sums
these are, what it has written of the counts so far and what it holds of them.
-/

namespace FactStream

namespace Count

/-- Every sum of the first so many counts is in range. -/
def PrefixSumsFit (counts : List Int) : Prop :=
  ∀ front ∈ counts.inits, inRange front.sum

instance prefixSumsFitDecidable (counts : List Int) :
    Decidable (PrefixSumsFit counts) :=
  inferInstanceAs (Decidable (∀ front ∈ counts.inits, _))

variable {counts : List Int} {count : Int}

theorem prefixSumsFit_nil : PrefixSumsFit [] := by decide

/-- One more count adds one sum, that of all counts. -/
theorem prefixSumsFit_concat :
    PrefixSumsFit (counts ++ [count]) ↔
      PrefixSumsFit counts ∧ inRange (counts.sum + count) := by
  have hinits : (counts ++ [count]).inits =
      counts.inits ++ [counts ++ [count]] := by
    rw [List.inits_append]
    rfl
  rw [PrefixSumsFit, hinits, List.forall_mem_append, List.forall_mem_singleton,
    List.sum_append, List.sum_singleton, PrefixSumsFit]

theorem prefixSumsFit_singleton :
    PrefixSumsFit [count] ↔ inRange count := by
  rw [← List.nil_append [count], prefixSumsFit_concat, List.sum_nil,
    Int.zero_add]
  exact and_iff_right prefixSumsFit_nil

theorem inRange_sum (hfit : PrefixSumsFit counts) : inRange counts.sum :=
  hfit counts ((List.mem_inits _ _).mpr List.prefix_rfl)

/-- Of counts that are not negative, the whole sum is the largest. -/
theorem prefixSumsFit_of_nonneg (hcounts : ∀ count ∈ counts, 0 ≤ count)
    (hsum : inRange counts.sum) : PrefixSumsFit counts := by
  intro front hfront
  have hpart : front.Sublist counts := ((List.mem_inits _ _).mp hfront).sublist
  have hle : front.sum ≤ counts.sum := hpart.sum_le_sum hcounts
  have hnonneg : 0 ≤ front.sum :=
    List.sum_nonneg fun count hcount => hcounts count (hpart.mem hcount)
  rw [inRange_iff] at hsum ⊢
  omega

end Count

namespace KeyCount

/-- Every line, once trimmed, is read as a count. -/
def AreCounts (lines : List Text) : Prop :=
  ∀ line ∈ lines, (ofLine line.trim).isOk

instance areCountsDecidable (lines : List Text) : Decidable (AreCounts lines) :=
  inferInstanceAs (Decidable (∀ line ∈ lines, _))

/-- The counts that lines are read as, in their order. -/
def ofLines (lines : List Text) : List KeyCount :=
  lines.filterMap fun line => (ofLine line.trim).toOption

/-- What is known of a count that has been read from a trimmed line. -/
structure IsRead (total : KeyCount) : Prop where
  key_ne_nil : total.key ≠ []
  inRange : Count.inRange total.count

variable {lines : List Text} {line : Text} {total : KeyCount}

theorem isRead_of_ofLine (hread : ofLine line.trim = .ok total) :
    total.IsRead where
  key_ne_nil := key_ne_nil_of_ofLine (Text.beginsBlank_trim line) hread
  inRange := inRange_of_ofLine hread

theorem mem_ofLines :
    total ∈ ofLines lines ↔ ∃ line ∈ lines, ofLine line.trim = .ok total := by
  rw [ofLines, List.mem_filterMap]
  apply exists_congr
  intro line
  cases ofLine line.trim <;> simp [Except.toOption]

theorem isRead_of_mem_ofLines (htotal : total ∈ ofLines lines) :
    total.IsRead := by
  obtain ⟨line, -, hread⟩ := mem_ofLines.mp htotal
  exact isRead_of_ofLine hread

theorem ofLines_concat (hread : ofLine line.trim = .ok total) :
    ofLines (lines ++ [line]) = ofLines lines ++ [total] := by
  rw [ofLines, List.filterMap_append, ofLines]
  simp [hread, Except.toOption]

theorem isRead_of_mem_concat {next : KeyCount}
    (hread : ofLine line.trim = .ok next)
    (htotal : total ∈ ofLines lines ++ [next]) : total.IsRead := by
  rw [← ofLines_concat hread] at htotal
  exact isRead_of_mem_ofLines htotal

theorem areCounts_concat :
    AreCounts (lines ++ [line]) ↔
      AreCounts lines ∧ ∃ total, ofLine line.trim = .ok total := by
  rw [AreCounts, List.forall_mem_append, List.forall_mem_singleton, AreCounts]
  apply and_congr_right
  intro _
  cases ofLine line.trim <;> simp [Except.isOk, Except.toBool]

section Written

variable {counts : List KeyCount}

/-- Every count in a line of its own. -/
def writtenText (counts : List KeyCount) : Text :=
  Text.ofLines (counts.map fun total => total.fact.text)

theorem encode_writtenText (counts : List KeyCount) :
    (writtenText counts).encode = Fact.stream (counts.map fact) := by
  rw [Fact.stream_eq_encode, List.map_map]
  rfl

theorem lines_writtenText (hframed : ∀ total ∈ counts, total.IsFramed) :
    (writtenText counts).lines = counts.map fun total => total.fact.text :=
  Text.lines_ofLines (List.forall_mem_map.mpr fun total hmem =>
    lineFeed_not_mem_fact (hframed total hmem).isKey)

theorem areCounts_writtenText (hframed : ∀ total ∈ counts, total.IsFramed) :
    AreCounts (writtenText counts).lines := by
  rw [lines_writtenText hframed, AreCounts, List.forall_mem_map]
  intro total hmem
  rw [ofLine_trim_fact (hframed total hmem)]
  rfl

/-- Written counts are read as they were. -/
theorem ofLines_writtenText (hframed : ∀ total ∈ counts, total.IsFramed) :
    ofLines (writtenText counts).lines = counts := by
  have hread : ∀ total ∈ counts,
      (ofLine total.fact.text.trim).toOption = some total := by
    intro total hmem
    rw [ofLine_trim_fact (hframed total hmem)]
    rfl
  rw [ofLines, lines_writtenText hframed, List.filterMap_map]
  exact (List.filterMap_congr hread).trans List.filterMap_some

theorem isFramed_of_mem_ofLines {text : Text} {total : KeyCount}
    (htotal : total ∈ ofLines text.lines) : total.IsFramed := by
  obtain ⟨line, hline, hread⟩ := mem_ofLines.mp htotal
  have hfeed : '\n' ∉ line.trim := fun hmem =>
    Text.lineFeed_not_mem_of_mem_lines hline (Text.mem_of_mem_trim hmem)
  exact isFramed_of_ofLine (Text.beginsBlank_trim line) hfeed hread

end Written

end KeyCount

namespace Counting

open KeyCount

/-- What is wrong with a line behind lines that have been read as `counts`: it is
no count, or it is one with which the counts do not fit any more. -/
inductive Offends (Fits : List KeyCount → Prop) (counts : List KeyCount)
    (line : Text) : StageError → Prop
  | unread {value : Text} {fault : NumeralFault}
      (hread : ofLine line.trim = .error (.invalidCount value fault)) :
      Offends Fits counts line (.invalidCount value fault)
  | overflow {next : KeyCount} (hread : ofLine line.trim = .ok next)
      (hfits : ¬ Fits (counts ++ [next])) :
      Offends Fits counts line (.countOverflow next.key)

/-- Which counts fit, and what has been written and is held of those that do. -/
structure Ledger (State : Type) where
  Fits : List KeyCount → Prop
  written : List KeyCount → List Fact
  held : List KeyCount → State

/-- The ledger of the counts that lines are read as. -/
def Ledger.history {State : Type} (ledger : Ledger State) : History State where
  Accepts lines := AreCounts lines ∧ ledger.Fits (ofLines lines)
  written lines := ledger.written (ofLines lines)
  skipped _ := 0
  state lines := ledger.held (ofLines lines)

variable {State : Type} {stage : Stage State} {ledger : Ledger State}

/-- The stage is a counter that does with the next count what the ledger says. -/
structure Keeps (stage : Stage State) (ledger : Ledger State) : Prop where
  fits_nil : ledger.Fits []
  fits_of_concat : ∀ {counts next}, (∀ total ∈ counts, total.IsRead) →
    ledger.Fits (counts ++ [next]) → ledger.Fits counts
  written_nil : ledger.written [] = []
  held_nil : ledger.held [] = stage.initial
  unread : ∀ {state line error}, ofLine line = .error error →
    stage.step state line = .refuse error state
  accept : ∀ {counts next line}, ofLine line = .ok next →
    (∀ total ∈ counts ++ [next], total.IsRead) →
    ledger.Fits (counts ++ [next]) →
      ∃ facts interrupted, stage.step (ledger.held counts) line =
          .write facts interrupted (ledger.held (counts ++ [next]))
            .consumed ∧
        ledger.written (counts ++ [next]) = ledger.written counts ++ facts
  overflow : ∀ {counts next line}, ofLine line = .ok next →
    (∀ total ∈ counts ++ [next], total.IsRead) →
    ledger.Fits counts → ¬ ledger.Fits (counts ++ [next]) →
      ∃ left, stage.step (ledger.held counts) line =
        .refuse (.countOverflow next.key) left

theorem Keeps.follows (hkeeps : Keeps stage ledger) :
    stage.Follows ledger.history
      fun lines => Offends ledger.Fits (ofLines lines) where
  accepts_nil := ⟨List.forall_mem_nil _, hkeeps.fits_nil⟩
  accepts_of_concat := by
    rintro lines line ⟨hcounts, hfits⟩
    obtain ⟨hlines, next, hread⟩ := areCounts_concat.mp hcounts
    rw [ofLines_concat hread] at hfits
    exact ⟨hlines, hkeeps.fits_of_concat (fun _ => isRead_of_mem_ofLines) hfits⟩
  written_nil := hkeeps.written_nil
  skipped_nil := rfl
  state_nil := hkeeps.held_nil
  accept := by
    rintro lines line ⟨hcounts, hfits⟩
    obtain ⟨-, next, hread⟩ := areCounts_concat.mp hcounts
    have hlast : ofLines (lines ++ [line]) = ofLines lines ++ [next] :=
      ofLines_concat hread
    have hall : ∀ total ∈ ofLines lines ++ [next], total.IsRead :=
      fun _ => isRead_of_mem_concat hread
    rw [hlast] at hfits
    obtain ⟨facts, interrupted, hstep, hwritten⟩ :=
      hkeeps.accept hread hall hfits
    refine ⟨facts, interrupted, .consumed, ?_, ?_, rfl⟩
    · simpa only [Ledger.history, hlast] using hstep
    · simpa only [Ledger.history, hlast] using hwritten
  refuse := by
    rintro lines line ⟨hcounts, hfits⟩ hrefused
    cases hread : ofLine line.trim with
    | error error =>
        obtain ⟨value, fault, rfl⟩ := invalidCount_of_ofLine hread
        exact ⟨_, _, hkeeps.unread hread, .unread hread⟩
    | ok next =>
        have hlast : ofLines (lines ++ [line]) = ofLines lines ++ [next] :=
          ofLines_concat hread
        have hall : ∀ total ∈ ofLines lines ++ [next], total.IsRead :=
          fun _ => isRead_of_mem_concat hread
        have hover : ¬ ledger.Fits (ofLines lines ++ [next]) := by
          intro hnext
          rw [← hlast] at hnext
          exact hrefused ⟨areCounts_concat.mpr ⟨hcounts, next, hread⟩, hnext⟩
        obtain ⟨left, hstep⟩ := hkeeps.overflow hread hall hfits hover
        exact ⟨_, left, hstep, .overflow hread hover⟩
  not_isStream := by
    rintro lines line error (_ | _) <;> rfl

end Counting

end FactStream
