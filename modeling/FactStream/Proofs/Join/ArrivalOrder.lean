import FactStream.Proofs.Join.JoinedRuns

/-!
# The order of arrival within a group

The rows of a key may arrive in any order, as long as they stand together.  The
joiner then has the same rows for every key, so it succeeds or not whatever the
order is, and writes the same pairs; only which of the two tags is seen first,
and with it which side is the left one, is a matter of the order.
-/

namespace FactStream

/-- The fact the other way round. -/
def Fact.swap (fact : Fact) : Fact :=
  ⟨fact.value, fact.key⟩

theorem Fact.swap_injective : Function.Injective swap := by
  rintro ⟨key, value⟩ ⟨otherKey, otherValue⟩ ⟨⟩
  rfl

/-- The same rows in some order, whatever lines they were read from. -/
def SameRows (rows others : List PlacedRow) : Prop :=
  (rows.map PlacedRow.toJoinRow).Perm (others.map PlacedRow.toJoinRow)

/-- The tag of the row that arrives first. -/
def firstTag? (rows : List PlacedRow) : Option Text :=
  rows.head?.map fun placed => placed.tag

theorem head?_tagsOf (rows : List PlacedRow) :
    (tagsOf rows).head? = firstTag? rows := by
  rw [tagsOf, Text.head?_eraseDups, List.head?_map, firstTag?]

theorem pairsOf_eq_nil {rows : List PlacedRow}
    (harity : (tagsOf rows).length ≠ 2) : pairsOf rows = [] := by
  rw [pairsOf]
  split
  · rename_i htags
    exact absurd (congrArg List.length htags) harity
  · rfl

namespace SameRows

variable {rows others : List PlacedRow}

theorem filter (hsame : SameRows rows others) (wanted : JoinRow → Bool) :
    SameRows (rows.filter fun placed => wanted placed.toJoinRow)
      (others.filter fun placed => wanted placed.toJoinRow) := by
  have hfiltered := List.Perm.filter wanted hsame
  rwa [List.filter_map, List.filter_map] at hfiltered

theorem perm_map {Value : Type} (hsame : SameRows rows others)
    (value : JoinRow → Value) :
    (rows.map fun placed => value placed.toJoinRow).Perm
      (others.map fun placed => value placed.toJoinRow) := by
  have hmapped := List.Perm.map value hsame
  rwa [List.map_map, List.map_map] at hmapped

theorem perm_contentsOf (hsame : SameRows rows others) (tag : Text) :
    (contentsOf tag rows).Perm (contentsOf tag others) :=
  (hsame.filter fun row => row.tag = tag).perm_map JoinRow.content

theorem perm_tagsOf (hsame : SameRows rows others) :
    (tagsOf rows).Perm (tagsOf others) := by
  rw [tagsOf, tagsOf, List.perm_ext_iff_of_nodup (Text.nodup_eraseDups _)
    (Text.nodup_eraseDups _)]
  intro tag
  rw [List.mem_eraseDups, List.mem_eraseDups]
  exact (hsame.perm_map JoinRow.tag).mem_iff

variable {left right : Text}

theorem perm_pairsOf_of_tags (hsame : SameRows rows others)
    (htags : tagsOf rows = [left, right])
    (hothers : tagsOf others = [left, right]) :
    (pairsOf others).Perm (pairsOf rows) := by
  rw [List.perm_iff_count]
  rintro ⟨content, other⟩
  rw [count_pairsOf hothers, count_pairsOf htags,
    (hsame.perm_contentsOf left).count_eq,
    (hsame.perm_contentsOf right).count_eq]

/-- When the tags change places, so do the sides of every pair. -/
theorem perm_pairsOf_of_swapped_tags (hsame : SameRows rows others)
    (htags : tagsOf rows = [left, right])
    (hothers : tagsOf others = [right, left]) :
    (pairsOf others).Perm ((pairsOf rows).map Fact.swap) := by
  rw [List.perm_iff_count]
  rintro ⟨content, other⟩
  have hswapped : ((pairsOf rows).map Fact.swap).count ⟨content, other⟩ =
      (pairsOf rows).count ⟨other, content⟩ :=
    List.count_map_of_injective _ _ Fact.swap_injective ⟨other, content⟩
  rw [hswapped, count_pairsOf hothers, count_pairsOf htags,
    (hsame.perm_contentsOf left).count_eq,
    (hsame.perm_contentsOf right).count_eq, Nat.mul_comm]

/-- The tags are two in both orders or in none, and then they are the same two
or the same two the other way round. -/
theorem perm_pairsOf (hsame : SameRows rows others) :
    (pairsOf others).Perm
      (if firstTag? rows = firstTag? others then pairsOf rows
        else (pairsOf rows).map Fact.swap) := by
  have htags := hsame.perm_tagsOf
  by_cases htwo : (tagsOf rows).length = 2
  · obtain ⟨left, right, hrows⟩ := List.length_eq_two.mp htwo
    obtain ⟨first, second, hothers⟩ :=
      List.length_eq_two.mp (htags.length_eq.symm.trans htwo)
    rw [← head?_tagsOf, ← head?_tagsOf, hrows, hothers]
    rw [hrows, hothers] at htags
    by_cases hfirst : left = first
    · subst hfirst
      obtain rfl : right = second := by
        simpa using List.perm_cons left |>.mp htags
      rw [if_pos rfl]
      exact hsame.perm_pairsOf_of_tags hrows hothers
    · obtain rfl : left = second := by
        simpa [hfirst] using htags.mem_iff.mp List.mem_cons_self
      obtain rfl : right = first := by
        simpa using List.perm_cons left |>.mp
          (htags.trans (List.Perm.swap left first []))
      have hheads : [left, right].head? ≠ [right, left].head? := by
        simpa using hfirst
      rw [if_neg hheads]
      exact hsame.perm_pairsOf_of_swapped_tags hrows hothers
  · have htwo_others : (tagsOf others).length ≠ 2 := by
      rwa [← htags.length_eq]
    rw [pairsOf_eq_nil htwo, pairsOf_eq_nil htwo_others, List.map_nil, ite_self]

end SameRows

section Lines

variable {lines others : List Text}

theorem sameRows_of_perm (hperm : lines.Perm others) :
    SameRows (placedRows 1 lines) (placedRows 1 others) := by
  rw [SameRows, map_toJoinRow_placedRows, map_toJoinRow_placedRows]
  exact hperm.filterMap _

theorem sameRows_rowsUnder (hperm : lines.Perm others) (key : Text) :
    SameRows (rowsUnder key lines) (rowsUnder key others) :=
  (sameRows_of_perm hperm).filter fun row => row.key = key

theorem perm_rowKeys (hperm : lines.Perm others) :
    (rowKeys lines).Perm (rowKeys others) := by
  rw [rowKeys, rowKeys, List.perm_ext_iff_of_nodup (Text.nodup_eraseDups _)
    (Text.nodup_eraseDups _)]
  intro key
  rw [List.mem_eraseDups, List.mem_eraseDups]
  exact ((sameRows_of_perm hperm).perm_map JoinRow.key).mem_iff

end Lines

namespace Joiner

theorem haveTwoTags_of_keysTogether {lines : List Text}
    (htogether : KeysTogether lines) :
    HaveTwoTags (rowRuns lines) ↔
      ∀ key ∈ rowKeys lines, (tagsOf (rowsUnder key lines)).length = 2 := by
  rw [rowRuns_of_keysTogether htogether, HaveTwoTags, List.forall_mem_map]

theorem haveTwoTags_congr {lines others : List Text} (hperm : lines.Perm others)
    (hlines : KeysTogether lines) (hothers : KeysTogether others) :
    HaveTwoTags (rowRuns lines) ↔ HaveTwoTags (rowRuns others) := by
  rw [haveTwoTags_of_keysTogether hlines, haveTwoTags_of_keysTogether hothers]
  simp only [(perm_rowKeys hperm).mem_iff,
    (sameRows_rowsUnder hperm _).perm_tagsOf.length_eq]

theorem succeeds_iff_haveTwoTags (text : Text) :
    (stage.run .unbounded text.encode).Succeeds ↔
      HaveTwoTags (rowRuns text.lines) := by
  constructor
  · rintro ⟨summary, hresult⟩
    by_contra hamiss
    obtain ⟨earlier, amiss, later, -, -, -, hrun⟩ :=
      run_of_not_haveTwoTags hamiss
    rw [hrun] at hresult
    cases hresult
  · intro hruns
    rw [run_of_haveTwoTags hruns]
    exact ⟨_, rfl⟩

theorem output_of_keysTogether {text : Text}
    (htogether : KeysTogether text.lines)
    (hruns : HaveTwoTags (rowRuns text.lines)) :
    (stage.run .unbounded text.encode).output =
      Fact.stream ((rowKeys text.lines).flatMap fun key =>
        pairsOf (rowsUnder key text.lines)) := by
  rw [run_of_haveTwoTags hruns, rowRuns_of_keysTogether htogether,
    List.flatMap_map]

/-- If the rows of every key stand together, their order does not matter for
whether the joiner succeeds.  For every key it then writes the same pairs, or
the same pairs with their sides swapped where another tag is seen first. -/
theorem arrival_order_only_swaps_sides {first second : Text}
    (hlines : first.lines.Perm second.lines)
    (hfirst : KeysTogether first.lines) (hsecond : KeysTogether second.lines) :
    let report := stage.run .unbounded first.encode
    let other := stage.run .unbounded second.encode
    (report.Succeeds ↔ other.Succeeds) ∧
    (rowKeys first.lines).Perm (rowKeys second.lines) ∧
    (report.Succeeds →
      report.output = Fact.stream ((rowKeys first.lines).flatMap fun key =>
        pairsOf (rowsUnder key first.lines)) ∧
      other.output = Fact.stream ((rowKeys second.lines).flatMap fun key =>
        pairsOf (rowsUnder key second.lines)) ∧
      ∀ key, (pairsOf (rowsUnder key second.lines)).Perm
        (if firstTag? (rowsUnder key first.lines) =
            firstTag? (rowsUnder key second.lines)
          then pairsOf (rowsUnder key first.lines)
          else (pairsOf (rowsUnder key first.lines)).map Fact.swap)) := by
  intro report other
  have hruns := haveTwoTags_congr hlines hfirst hsecond
  refine ⟨?_, perm_rowKeys hlines, ?_⟩
  · rw [succeeds_iff_haveTwoTags, succeeds_iff_haveTwoTags, hruns]
  · rw [succeeds_iff_haveTwoTags]
    intro hfits
    exact ⟨output_of_keysTogether hfirst hfits,
      output_of_keysTogether hsecond (hruns.mp hfits),
      fun key => (sameRows_rowsUnder hlines key).perm_pairsOf⟩

theorem arrival_order_only_swaps_sides_on_duplicates :
    let first : Text :=
      "k\tx\t1\nk\ty\t2\nk\tx\t 1\nj\tu\t2\nj\tv\t1".toList
    let second : Text :=
      "j\tu\t2\nj\tv\t1\nk\ty\t2\nk\tx\t 1\nk\tx\t1".toList
    let k := "k".toList
    let j := "j".toList
    (stage.run .unbounded second.encode).output =
      Text.encode "u\tv\ny\tx\ny\tx\n".toList ∧
    (pairsOf (rowsUnder k second.lines)).Perm
      ((pairsOf (rowsUnder k first.lines)).map Fact.swap) ∧
    (pairsOf (rowsUnder j second.lines)).Perm
      (pairsOf (rowsUnder j first.lines)) := by
  intro first second k j
  have hlines : first.lines.Perm second.lines := by decide +kernel
  have hfirst : KeysTogether first.lines := by decide +kernel
  have hsecond : KeysTogether second.lines := by decide +kernel
  obtain ⟨-, -, hpairs⟩ :=
    arrival_order_only_swaps_sides hlines hfirst hsecond
  have hsucceeds : (stage.run .unbounded first.encode).Succeeds :=
    ⟨_, by rfl⟩
  obtain ⟨-, -, hkeys⟩ := hpairs hsucceeds
  exact ⟨by decide +kernel, hkeys k, hkeys j⟩

end Joiner

end FactStream
