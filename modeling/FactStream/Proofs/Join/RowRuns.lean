import FactStream.Proofs.Join.Grouping
import FactStream.Proofs.Shuffle

/-!
# Runs of rows

Whether sorted or not, the rows among the lines of an input are cut into maximal
runs of one key.  A run is known by its tags, in the order in which they are
first seen, and by the contents of each; this is what a bucket holds once the
rows have been pushed into it.
-/

namespace FactStream

/-- A row and the number of the line that it was read from. -/
structure PlacedRow extends JoinRow where
  line : Nat
  deriving DecidableEq, Repr

/-- The rows among the lines from a number on; what stands between them does not
matter. -/
def placedRows (number : Nat) (lines : List Text) : List PlacedRow :=
  (lines.zipIdx number).filterMap fun (line, number) =>
    (JoinRow.ofLine? line.trim).map fun row => ⟨row, number⟩

/-- The maximal runs of rows of one key. -/
def rowRuns (lines : List Text) : List (List PlacedRow) :=
  keyRuns (fun placed => placed.key) (placedRows 1 lines)

/-- The number of the lines that are no rows. -/
def countNoRows (lines : List Text) : Nat :=
  lines.countP fun line => (JoinRow.ofLine? line.trim).isNone

/-- The rows of a key, wherever they stand. -/
def rowsUnder (key : Text) (lines : List Text) : List PlacedRow :=
  (placedRows 1 lines).filter fun placed => placed.key = key

/-- The keys of the rows, in the order in which they are first seen. -/
def rowKeys (lines : List Text) : List Text :=
  ((placedRows 1 lines).map fun placed => placed.key).eraseDups

/-- All rows of a key stand together; lines that are no rows may be anywhere. -/
def KeysTogether (lines : List Text) : Prop :=
  Shuffle.Contiguous ((placedRows 1 lines).map fun placed => placed.key)

instance keysTogetherDecidable (lines : List Text) :
    Decidable (KeysTogether lines) :=
  inferInstanceAs (Decidable (Shuffle.Contiguous _))

section Lines

variable {lines : List Text} {line : Text} {row : JoinRow}

theorem placedRows_append (number : Nat) (front rest : List Text) :
    placedRows number (front ++ rest) =
      placedRows number front ++ placedRows (number + front.length) rest := by
  rw [placedRows, List.zipIdx_append, List.filterMap_append, placedRows,
    placedRows]

theorem placedRows_cons_of_row (hrow : JoinRow.ofLine? line.trim = some row)
    (number : Nat) (lines : List Text) :
    placedRows number (line :: lines) =
      ⟨row, number⟩ :: placedRows (number + 1) lines := by
  simp [placedRows, hrow]

theorem placedRows_cons_of_none (hnone : JoinRow.ofLine? line.trim = none)
    (number : Nat) (lines : List Text) :
    placedRows number (line :: lines) = placedRows (number + 1) lines := by
  simp [placedRows, hnone]

theorem map_toJoinRow_placedRows (number : Nat) (lines : List Text) :
    (placedRows number lines).map PlacedRow.toJoinRow =
      lines.filterMap fun line => JoinRow.ofLine? line.trim := by
  induction lines generalizing number with
  | nil => rfl
  | cons line lines ih =>
      rw [List.filterMap_cons]
      cases hread : JoinRow.ofLine? line.trim with
      | none => rw [placedRows_cons_of_none hread, ih]
      | some row => rw [placedRows_cons_of_row hread, List.map_cons, ih]

theorem rowRuns_of_keysTogether (htogether : KeysTogether lines) :
    rowRuns lines = (rowKeys lines).map fun key => rowsUnder key lines :=
  Shuffle.keyRuns_of_contiguous htogether

theorem rowRuns_concat_of_none (hnone : JoinRow.ofLine? line.trim = none) :
    rowRuns (lines ++ [line]) = rowRuns lines := by
  rw [rowRuns, placedRows_append, placedRows_cons_of_none hnone]
  simp [placedRows, rowRuns]

theorem rowRuns_concat_of_row (hrow : JoinRow.ofLine? line.trim = some row) :
    RunsGrow (fun placed => placed.key) ⟨row, 1 + lines.length⟩
      (rowRuns lines) (rowRuns (lines ++ [line])) := by
  have hlast : placedRows 1 (lines ++ [line]) =
      placedRows 1 lines ++ [⟨row, 1 + lines.length⟩] := by
    rw [placedRows_append, placedRows_cons_of_row hrow]
    rfl
  rw [rowRuns, rowRuns, hlast]
  exact keyRuns_concat _ _

theorem countNoRows_concat (lines : List Text) (line : Text) :
    countNoRows (lines ++ [line]) = countNoRows lines +
      if (JoinRow.ofLine? line.trim).isNone then 1 else 0 := by
  rw [countNoRows, List.countP_append, List.countP_singleton, countNoRows]

end Lines

section Rows

/-- The tags of some rows, in the order in which they are first seen. -/
def tagsOf (rows : List PlacedRow) : List Text :=
  (rows.map fun placed => placed.tag).eraseDups

/-- The contents of a tag, in the order of their arrival. -/
def contentsOf (tag : Text) (rows : List PlacedRow) : List Text :=
  (rows.filter fun placed => placed.tag = tag).map fun placed => placed.content

/-- Every content of the tag seen first with every content of the other. -/
def pairsOf (rows : List PlacedRow) : List Fact :=
  match tagsOf rows with
  | [left, right] =>
      (contentsOf left rows).flatMap fun content =>
        (contentsOf right rows).map fun other => ⟨content, other⟩
  | _ => []

theorem tagsOf_eq (rows : List PlacedRow) :
    tagsOf rows =
      ((rows.map PlacedRow.toJoinRow).map JoinRow.tag).eraseDups := by
  rw [List.map_map]
  rfl

theorem contentsOf_eq (tag : Text) (rows : List PlacedRow) :
    contentsOf tag rows =
      ((rows.map PlacedRow.toJoinRow).filter fun row => row.tag = tag).map
        JoinRow.content := by
  rw [List.filter_map, List.map_map]
  rfl

/-- A content on the left comes with every content on the right, so their
multiplicities multiply. -/
theorem JoinGroup.count_product (left right : List Text)
    (content other : Text) :
    (product left right).count ⟨content, other⟩ =
      left.count content * right.count other := by
  induction left with
  | nil => simp [product]
  | cons first left ih =>
      have hfirst : (right.map (Fact.mk first)).count ⟨content, other⟩ =
          if first = content then right.count other else 0 := by
        by_cases hsame : first = content
        · have hinjective : Function.Injective (Fact.mk content) :=
            fun _ _ heq => (Fact.mk.inj heq).2
          rw [if_pos hsame, hsame, List.count_map_of_injective right _ hinjective]
        · rw [if_neg hsame, List.count_eq_zero]
          simp [hsame]
      rw [product] at ih ⊢
      rw [List.flatMap_cons, List.count_append, ih, hfirst, List.count_cons]
      by_cases hsame : first = content
      · simp [hsame, Nat.add_mul, Nat.add_comm]
      · simp [hsame]

/-- A pair occurs as often as its left content does, times its right one. -/
theorem count_pairsOf {rows : List PlacedRow} {left right : Text}
    (htags : tagsOf rows = [left, right]) (content other : Text) :
    (pairsOf rows).count ⟨content, other⟩ =
      (contentsOf left rows).count content *
        (contentsOf right rows).count other := by
  rw [pairsOf, htags]
  exact JoinGroup.count_product _ _ content other

/-- The side that a bucket has for every tag. -/
def sidesOf (rows : List PlacedRow) : List JoinSide :=
  (tagsOf rows).map fun tag => ⟨tag, contentsOf tag rows⟩

theorem map_tag_sidesOf (rows : List PlacedRow) :
    (sidesOf rows).map JoinSide.tag = tagsOf rows := by
  rw [sidesOf, List.map_map]
  exact List.map_id _

theorem pushSide_of_mem {tags : List Text} {tag : Text} (hnodup : tags.Nodup)
    (htag : tag ∈ tags) (content : Text) (contents : Text → List Text) :
    JoinBucket.pushSide tag content
        (tags.map fun other => ⟨other, contents other⟩) =
      tags.map fun other =>
        ⟨other, contents other ++ if tag = other then [content] else []⟩ := by
  induction tags with
  | nil => exact absurd htag List.not_mem_nil
  | cons first tags ih =>
      rw [List.nodup_cons] at hnodup
      rw [List.map_cons, List.map_cons, JoinBucket.pushSide]
      by_cases hfirst : first = tag
      · have hrest : (tags.map fun other => JoinSide.mk other
            (contents other ++ if tag = other then [content] else [])) =
              tags.map fun other => ⟨other, contents other⟩ := by
          apply List.map_congr_left
          intro other hother
          have hne : tag ≠ other := by
            rintro rfl
            exact hnodup.1 (hfirst ▸ hother)
          rw [if_neg hne, List.append_nil]
        rw [if_pos hfirst, hrest, if_pos hfirst.symm]
      · have hmem : tag ∈ tags :=
          (List.mem_cons.mp htag).resolve_left (Ne.symm hfirst)
        rw [if_neg hfirst, ih hnodup.2 hmem, if_neg (Ne.symm hfirst),
          List.append_nil]

theorem contentsOf_concat (tag : Text) (rows : List PlacedRow)
    (next : PlacedRow) :
    contentsOf tag (rows ++ [next]) =
      contentsOf tag rows ++ if next.tag = tag then [next.content] else [] := by
  rw [contentsOf, List.filter_append, List.map_append, contentsOf]
  by_cases htag : next.tag = tag <;> simp [htag]

theorem contentsOf_eq_nil {tag : Text} {rows : List PlacedRow}
    (htag : tag ∉ rows.map fun placed => placed.tag) :
    contentsOf tag rows = [] := by
  rw [contentsOf, List.map_eq_nil_iff, List.filter_eq_nil_iff]
  intro placed hmem heq
  exact htag (List.mem_map.mpr ⟨placed, hmem, of_decide_eq_true heq⟩)

/-- One more row is pushed to the side of its tag. -/
theorem sidesOf_concat (rows : List PlacedRow) (next : PlacedRow) :
    sidesOf (rows ++ [next]) =
      JoinBucket.pushSide next.tag next.content (sidesOf rows) := by
  have hnodup : (tagsOf rows).Nodup := Text.nodup_eraseDups _
  have htags : tagsOf (rows ++ [next]) =
      if next.tag ∈ rows.map fun placed => placed.tag then tagsOf rows
      else tagsOf rows ++ [next.tag] := by
    rw [tagsOf, List.map_append, List.map_singleton, Text.eraseDups_concat]
    rfl
  by_cases hmem : next.tag ∈ rows.map fun placed => placed.tag
  · have htag : next.tag ∈ tagsOf rows := List.mem_eraseDups.mpr hmem
    rw [sidesOf, htags, if_pos hmem, sidesOf, pushSide_of_mem hnodup htag]
    simp only [contentsOf_concat]
  · have htag : next.tag ∉ (sidesOf rows).map JoinSide.tag := by
      rwa [map_tag_sidesOf, tagsOf, List.mem_eraseDups]
    have hsides : (tagsOf rows).map (fun tag =>
        JoinSide.mk tag (contentsOf tag (rows ++ [next]))) = sidesOf rows := by
      apply List.map_congr_left
      intro other hother
      have hne : next.tag ≠ other := by
        rintro rfl
        exact hmem (List.mem_eraseDups.mp hother)
      rw [contentsOf_concat, if_neg hne, List.append_nil]
    rw [JoinBucket.pushSide_of_not_mem htag, sidesOf, htags, if_neg hmem,
      List.map_append, hsides, List.map_singleton, contentsOf_concat,
      if_pos rfl, contentsOf_eq_nil hmem, List.nil_append]

/-- The key of a run of rows. -/
def keyOf (rows : List PlacedRow) : Text :=
  runKey (fun placed => placed.key) rows

/-- The group that the joiner has collected once it has read a run. -/
def groupOf (rows : List PlacedRow) : JoinGroup :=
  .collect (keyOf rows) (rows.map PlacedRow.toJoinRow)

theorem sides_groupOf (rows : List PlacedRow) :
    (groupOf rows).bucket.sides = sidesOf rows := by
  change (JoinBucket.empty.pushAll _).sides = _
  induction rows using List.reverseRecOn with
  | nil => rfl
  | append_singleton rows next ih =>
      rw [sidesOf_concat, ← ih, List.map_append, JoinBucket.pushAll_append]
      rfl

theorem facts_groupOf (rows : List PlacedRow) :
    (groupOf rows).facts =
      if (tagsOf rows).length = 2 then .ok (pairsOf rows)
      else .error (.joinArity (keyOf rows) (tagsOf rows)) := by
  have htags : (groupOf rows).bucket.tags = tagsOf rows := by
    rw [JoinBucket.tags, sides_groupOf, map_tag_sidesOf]
  rw [JoinGroup.facts, JoinBucket.pair, sides_groupOf, htags, sidesOf, pairsOf]
  rcases tagsOf rows with _ | ⟨_, _ | ⟨_, _ | ⟨_, _⟩⟩⟩
  · rfl
  · rfl
  · rfl
  · rfl

theorem groupOf_singleton (next : PlacedRow) :
    groupOf [next] = .start next.toJoinRow := rfl

theorem groupOf_concat {rows : List PlacedRow} (hne : rows ≠ [])
    (next : PlacedRow) :
    groupOf (rows ++ [next]) = (groupOf rows).push next.toJoinRow := by
  have hkey : keyOf (rows ++ [next]) = keyOf rows := by
    rw [keyOf, runKey, List.head?_append_of_ne_nil _ hne, keyOf, runKey]
  rw [groupOf, hkey, groupOf, JoinGroup.push_collect, List.map_append,
    List.map_singleton]

end Rows

end FactStream
