import FactStream.Proofs.Except
import FactStream.Proofs.Join.Grouping
import FactStream.Proofs.Join.Reading
import FactStream.Proofs.Stage.Progress
import Mathlib.Data.List.Nodup
import Mathlib.Algebra.Order.Ring.Unbundled.Basic
import Mathlib.Tactic.Linarith

/-!
# What the joiner holds

The group that is being collected has at least one side, and its sides have
different tags that are not empty.  Every row that has been read is one of a
group that has ended or of the group that is held, and a group of as many rows
gives at most a quarter of their square as pairs.
-/

namespace FactStream

namespace JoinBucket

/-- The number of rows on all sides. -/
def rowCount (bucket : JoinBucket) : Nat :=
  (bucket.sides.map fun side => side.contents.length).sum

theorem rowCount_push (bucket : JoinBucket) (tag content : Text) :
    (bucket.push tag content).rowCount = bucket.rowCount + 1 := by
  obtain ⟨sides⟩ := bucket
  simp only [rowCount, push]
  induction sides with
  | nil => rfl
  | cons side sides ih =>
      rw [pushSide]
      by_cases htag : side.tag = tag
      · rw [if_pos htag, List.map_cons, List.map_cons, List.sum_cons,
          List.sum_cons, List.length_append, List.length_singleton]
        exact Nat.add_right_comm _ _ _
      · rw [if_neg htag, List.map_cons, List.map_cons, List.sum_cons,
          List.sum_cons, ih, Nat.add_assoc]

theorem map_tag_pushSide (tag content : Text) (sides : List JoinSide) :
    (pushSide tag content sides).map JoinSide.tag =
      if tag ∈ sides.map JoinSide.tag then sides.map JoinSide.tag
      else sides.map JoinSide.tag ++ [tag] := by
  induction sides with
  | nil => rfl
  | cons side sides ih =>
      rw [pushSide]
      by_cases htag : side.tag = tag
      · rw [if_pos htag, List.map_cons, List.map_cons, htag,
          if_pos List.mem_cons_self]
      · rw [if_neg htag, List.map_cons, List.map_cons, ih]
        by_cases hmem : tag ∈ sides.map JoinSide.tag
        · rw [if_pos hmem, if_pos (List.mem_cons_of_mem _ hmem)]
        · rw [if_neg hmem, if_neg, List.cons_append]
          rw [List.mem_cons, not_or]
          exact ⟨Ne.symm htag, hmem⟩

/-- A tag that is new becomes the last one. -/
theorem tags_push (bucket : JoinBucket) (tag content : Text) :
    (bucket.push tag content).tags =
      if tag ∈ bucket.tags then bucket.tags else bucket.tags ++ [tag] :=
  map_tag_pushSide tag content bucket.sides

/-- Contents that all have a property still have it when one is added that has
it. -/
theorem forall_content_push {Holds : Text → Prop} {bucket : JoinBucket}
    (hbucket : ∀ side ∈ bucket.sides, ∀ content ∈ side.contents, Holds content)
    (tag : Text) {added : Text} (hadded : Holds added) :
    ∀ side ∈ (bucket.push tag added).sides,
      ∀ content ∈ side.contents, Holds content := by
  obtain ⟨sides⟩ := bucket
  simp only [push] at hbucket ⊢
  induction sides with
  | nil =>
      rw [pushSide, List.forall_mem_singleton, List.forall_mem_singleton]
      exact hadded
  | cons side sides ih =>
      rw [List.forall_mem_cons] at hbucket
      rw [pushSide]
      by_cases htag : side.tag = tag
      · rw [if_pos htag, List.forall_mem_cons, List.forall_mem_append,
          List.forall_mem_singleton]
        exact ⟨⟨hbucket.1, hadded⟩, hbucket.2⟩
      · rw [if_neg htag, List.forall_mem_cons]
        exact ⟨hbucket.1, ih hbucket.2⟩

end JoinBucket

namespace JoinRow

/-- A row that is read from a line without a blank at its end has a tag. -/
theorem tag_ne_nil_of_isFed {line : Text} {row : JoinRow} (hline : line.IsFed)
    (hread : ofLine? line = some row) : row.tag ≠ [] := by
  intro hnil
  obtain ⟨content, tag, hfields, -, -, htag⟩ := ofLine?_eq_some_iff.mp hread
  rw [hnil] at htag
  have hends : Text.endsBlank ('\t' :: tag) :=
    Text.endsBlank_of_blank (List.cons_ne_nil _ _)
      (Text.forall_isBlank_cons rfl htag)
  have hline_ends := hline.not_endsBlank
  rw [hfields, ← List.cons_append, ← List.append_assoc,
    Text.endsBlank_append _ (List.cons_ne_nil _ _), hends] at hline_ends
  exact Bool.noConfusion hline_ends

theorem lineFeed_not_mem_content_of_isFed {line : Text} {row : JoinRow}
    (hline : line.IsFed) (hread : ofLine? line = some row) :
    '\n' ∉ row.content := by
  obtain ⟨content, tag, hfields, -, hcontent, -⟩ :=
    ofLine?_eq_some_iff.mp hread
  intro hmem
  apply hline.lineFeed_not_mem
  rw [← hcontent] at hmem
  simp [hfields, Text.mem_of_mem_trim hmem]

end JoinRow

namespace JoinGroup

/-- What rows that have been read make up. -/
structure IsProper (group : JoinGroup) : Prop where
  tags_ne_nil : group.bucket.tags ≠ []
  tags_nodup : group.bucket.tags.Nodup
  tag_ne_nil : ∀ tag ∈ group.bucket.tags, tag ≠ []
  lineFeed_not_mem : ∀ side ∈ group.bucket.sides,
    ∀ content ∈ side.contents, '\n' ∉ content

section Rows

variable {line : Text} {row : JoinRow}

theorem isProper_start (hline : line.IsFed)
    (hread : JoinRow.ofLine? line = some row) : (start row).IsProper where
  tags_ne_nil := List.cons_ne_nil _ _
  tags_nodup := List.nodup_singleton _
  tag_ne_nil :=
    List.forall_mem_singleton.mpr (JoinRow.tag_ne_nil_of_isFed hline hread)
  lineFeed_not_mem :=
    List.forall_mem_singleton.mpr (List.forall_mem_singleton.mpr
      (JoinRow.lineFeed_not_mem_content_of_isFed hline hread))

theorem IsProper.push {group : JoinGroup} (hproper : group.IsProper)
    (hline : line.IsFed) (hread : JoinRow.ofLine? line = some row) :
    (group.push row).IsProper := by
  have hcontents := JoinBucket.forall_content_push hproper.lineFeed_not_mem
    row.tag (JoinRow.lineFeed_not_mem_content_of_isFed hline hread)
  have htags := group.bucket.tags_push row.tag row.content
  by_cases hmem : row.tag ∈ group.bucket.tags
  · rw [if_pos hmem] at htags
    exact ⟨htags ▸ hproper.tags_ne_nil, htags ▸ hproper.tags_nodup,
      htags ▸ hproper.tag_ne_nil, hcontents⟩
  · rw [if_neg hmem] at htags
    refine ⟨?_, ?_, ?_, hcontents⟩
    · exact htags ▸ List.append_ne_nil_of_right_ne_nil _ (List.cons_ne_nil _ _)
    · exact htags ▸ hproper.tags_nodup.append (List.nodup_singleton _)
        (List.disjoint_singleton.mpr hmem)
    · refine htags ▸ List.forall_mem_append.mpr ⟨hproper.tag_ne_nil, ?_⟩
      exact List.forall_mem_singleton.mpr
        (JoinRow.tag_ne_nil_of_isFed hline hread)

end Rows

section Facts

variable {group : JoinGroup}

/-- The pairs of a group are those of its two sides. -/
theorem exists_sides_of_facts {facts : List Fact}
    (hfacts : group.facts = .ok facts) :
    ∃ left right, group.bucket.sides = [left, right] ∧
      facts = product left.contents right.contents := by
  rw [JoinGroup.facts, JoinBucket.pair] at hfacts
  split at hfacts
  · rename_i left right hsides
    cases hfacts
    exact ⟨left, right, hsides, rfl⟩
  · cases hfacts

theorem lineFeed_not_mem_of_facts {facts : List Fact}
    (hproper : group.IsProper) (hfacts : group.facts = .ok facts) :
    ∀ fact ∈ facts, '\n' ∉ fact.text := by
  obtain ⟨left, right, hsides, rfl⟩ := exists_sides_of_facts hfacts
  have hcontents := hproper.lineFeed_not_mem
  rw [hsides, List.forall_mem_cons, List.forall_mem_singleton] at hcontents
  intro fact hmem
  obtain ⟨content, hcontent, hfact⟩ := List.mem_flatMap.mp hmem
  obtain ⟨other, hother, rfl⟩ := List.mem_map.mp hfact
  exact Fact.lineFeed_not_mem_text _ (hcontents.1 content hcontent)
    (hcontents.2 other hother)

theorem length_product (left right : List Text) :
    (product left right).length = left.length * right.length := by
  rw [product, List.length_flatMap]
  simp

/-- Two sides of together so many rows give at most a quarter of the square as
pairs. -/
theorem four_mul_length_le {facts : List Fact}
    (hfacts : group.facts = .ok facts) :
    4 * facts.length ≤ group.bucket.rowCount ^ 2 := by
  obtain ⟨left, right, hsides, rfl⟩ := exists_sides_of_facts hfacts
  have hrows : group.bucket.rowCount =
      left.contents.length + right.contents.length := by
    rw [JoinBucket.rowCount, hsides]
    simp
  rw [length_product, hrows, ← Nat.mul_assoc]
  exact four_mul_le_sq_add _ _

end Facts

end JoinGroup

namespace Joiner

open JoinGroup

/-- What a row does to the group held, if any: the facts it has written, and the
group that is held then. -/
inductive Receives (row : JoinRow) :
    Option JoinGroup → List Fact → JoinGroup → Prop
  | first : Receives row none [] (.start row)
  | same {group : JoinGroup} (hkey : group.key = row.key) :
      Receives row (some group) [] (group.push row)
  | other {group : JoinGroup} {facts : List Fact} (hkey : group.key ≠ row.key)
      (hfacts : group.facts = .ok facts) :
      Receives row (some group) facts (.start row)

theorem receive_row_cases (joiner : Joiner) (row : JoinRow) :
    (∃ facts interrupted group, Receives row joiner.group facts group ∧
      joiner.receive (some row) =
        .write facts interrupted ⟨some group⟩ .consumed) ∨
    ∃ group error, joiner.group = some group ∧ group.facts = .error error ∧
      joiner.receive (some row) = .refuse error idle := by
  obtain ⟨_ | group⟩ := joiner
  · left
    exact ⟨[], _, .start row, .first, rfl⟩
  · by_cases hkey : group.key = row.key
    · left
      exact ⟨[], _, group.push row, .same hkey, if_pos hkey⟩
    · have hflush : receive ⟨some group⟩ (some row) =
          flush ⟨some group⟩ ⟨some (.start row)⟩ .consumed := if_neg hkey
      rw [hflush]
      cases hfacts : group.facts with
      | error error =>
          right
          exact ⟨group, error, rfl, hfacts, flush_of_facts_error hfacts _ _⟩
      | ok facts =>
          left
          exact ⟨facts, idle, .start row, .other hkey hfacts,
            flush_of_facts hfacts _ _⟩

section Step

variable {joiner state interrupted : Joiner} {line : Text}
  {facts : List Fact} {outcome : Outcome} {error : StageError}

theorem step_write
    (hstep : stage.step joiner line = .write facts interrupted state outcome) :
    (JoinRow.ofLine? line = none ∧ facts = [] ∧ state = joiner ∧
      outcome = .skipped) ∨
    ∃ row group, JoinRow.ofLine? line = some row ∧
      Receives row joiner.group facts group ∧ state = ⟨some group⟩ ∧
      outcome = .consumed := by
  change step joiner line = _ at hstep
  rw [step_eq_receive] at hstep
  cases hread : JoinRow.ofLine? line with
  | none =>
      left
      rw [hread] at hstep
      cases hstep
      exact ⟨rfl, rfl, rfl, rfl⟩
  | some row =>
      right
      rw [hread] at hstep
      rcases joiner.receive_row_cases row with
        ⟨written, before, group, hreceives, hreply⟩ | ⟨_, _, -, -, hreply⟩
      · rw [hreply] at hstep
        cases hstep
        exact ⟨row, group, rfl, hreceives, rfl, rfl⟩
      · rw [hreply] at hstep
        cases hstep

theorem finish_cases (joiner : Joiner) :
    (joiner.group = none ∧ joiner.finish = .pass idle ()) ∨
    ∃ group, joiner.group = some group ∧
      ((∃ facts, group.facts = .ok facts ∧
        joiner.finish = .write facts idle idle ()) ∨
      ∃ error, group.facts = .error error ∧
        joiner.finish = .refuse error idle) := by
  obtain ⟨_ | group⟩ := joiner
  · exact .inl ⟨rfl, rfl⟩
  · right
    refine ⟨group, rfl, ?_⟩
    cases hfacts : group.facts with
    | ok facts => exact .inl ⟨facts, rfl, flush_of_facts hfacts _ _⟩
    | error error =>
        right
        exact ⟨error, rfl, flush_of_facts_error hfacts _ _⟩

end Step

/-- Every row read is one of a group that has ended or of the group held, and
what has been written are pairs of rows of groups that have ended. -/
structure Invariant (progress : Progress Joiner) : Prop where
  written : ∀ fact ∈ progress.written, '\n' ∉ fact.text
  group : ∀ group ∈ progress.state.group, group.IsProper
  rows : ∃ ended,
    ended + progress.state.bucket.rowCount + progress.skipped = progress.read ∧
      4 * progress.written.length ≤ ended ^ 2

/-- Of two parts the squares are together no more than the square of both. -/
theorem sq_add_sq_le (ended held : Nat) :
    ended ^ 2 + held ^ 2 ≤ (ended + held) ^ 2 := by
  nlinarith [Nat.zero_le (ended * held)]

theorem Receives.isProper {row : JoinRow} {held : Option JoinGroup}
    {facts : List Fact} {group : JoinGroup}
    (hreceives : Receives row held facts group)
    (hheld : ∀ other ∈ held, other.IsProper) {line : Text} (hline : line.IsFed)
    (hread : JoinRow.ofLine? line = some row) :
    group.IsProper ∧ ∀ fact ∈ facts, '\n' ∉ fact.text := by
  cases hreceives with
  | first => exact ⟨isProper_start hline hread, List.forall_mem_nil _⟩
  | same hkey =>
      exact ⟨(hheld _ rfl).push hline hread, List.forall_mem_nil _⟩
  | other hkey hfacts =>
      exact ⟨isProper_start hline hread,
        lineFeed_not_mem_of_facts (hheld _ rfl) hfacts⟩

/-- A row is added to the rows held, or those are the rows of a group that has
ended and it is the only one held. -/
theorem Receives.rowCount {row : JoinRow} {joiner : Joiner} {facts : List Fact}
    {group : JoinGroup} (hreceives : Receives row joiner.group facts group) :
    ∃ ended, ended + group.bucket.rowCount = joiner.bucket.rowCount + 1 ∧
      4 * facts.length ≤ ended ^ 2 := by
  obtain ⟨held⟩ := joiner
  cases hreceives with
  | first => exact ⟨0, rfl, le_refl _⟩
  | @same group hkey =>
      refine ⟨0, ?_, le_refl _⟩
      rw [Nat.zero_add]
      exact group.bucket.rowCount_push row.tag row.content
  | other hkey hfacts => exact ⟨_, rfl, four_mul_length_le hfacts⟩

theorem maintains_invariant : stage.Maintains Invariant where
  start :=
    { written := List.forall_mem_nil _
      group := by simp [Progress.start, stage, idle]
      rows := ⟨0, rfl, le_refl _⟩ }
  step := by
    intro progress line facts interrupted state outcome hinvariant hline hstep
    obtain ⟨ended, hrows, hpairs⟩ := hinvariant.rows
    rcases step_write hstep with
      ⟨-, rfl, rfl, rfl⟩ | ⟨row, group, hread, hreceives, rfl, rfl⟩
    · refine ⟨?_, hinvariant.group, ended, ?_, ?_⟩
      · rw [Progress.written_advance_nil]
        exact hinvariant.written
      · simp only [Progress.advance, Outcome.skips]
        omega
      · rw [Progress.written_advance_nil]
        exact hpairs
    · obtain ⟨hgroup, hfacts⟩ :=
        hreceives.isProper hinvariant.group hline hread
      obtain ⟨more, hmore, hmore_pairs⟩ := hreceives.rowCount
      refine ⟨List.forall_mem_append.mpr ⟨hinvariant.written, hfacts⟩, ?_,
        ended + more, ?_, ?_⟩
      · rintro other ⟨rfl⟩
        exact hgroup
      · simp only [Progress.advance, Outcome.skips, bucket, Option.map_some,
          Option.getD_some]
        omega
      · have hsquares := sq_add_sq_le ended more
        simp only [Progress.advance, List.length_append]
        omega

end Joiner

end FactStream
