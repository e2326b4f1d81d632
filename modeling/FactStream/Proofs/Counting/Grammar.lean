import FactStream.Proofs.Counting.KeyCount
import FactStream.Proofs.Text.Digits

/-!
# The grammar of count lines

Of a count line only what stands between its first tab and its second one is
read as a count, or all of it if it has no tab.  It is accepted if it is a
numeral in range with blanks around it, and otherwise it is what the refusal
quotes, blanks and all.
-/

namespace FactStream.KeyCount

/-- What stands in front of the first tab, the label if there is none. -/
def keyText (line : Text) : Text :=
  if '\t' ∈ line then line.takeWhile (· ≠ '\t') else emptyKeyLabel

/-- What stands between the first tab and the second one, or behind the first if
it is the only one; the whole line if there is none. -/
def countText (line : Text) : Text :=
  if '\t' ∈ line then
    (line.dropWhile (· ≠ '\t')).tail.takeWhile (· ≠ '\t')
  else line

section Fields

variable {key rest : Text}

theorem takeWhile_append_tab (htab : '\t' ∉ key) :
    (key ++ '\t' :: rest).takeWhile (· ≠ '\t') = key := by
  rw [List.takeWhile_append_of_pos]
  · simp
  · intro character hmem
    simpa using ne_of_mem_of_not_mem hmem htab

theorem dropWhile_append_tab (htab : '\t' ∉ key) :
    (key ++ '\t' :: rest).dropWhile (· ≠ '\t') = '\t' :: rest := by
  rw [List.dropWhile_append_of_pos]
  · simp
  · intro character hmem
    simpa using ne_of_mem_of_not_mem hmem htab

/-- A text with a tab is what stands in front of the first one, and what stands
behind it. -/
theorem exists_append_tab {line : Text} (htab : '\t' ∈ line) :
    ∃ key rest, '\t' ∉ key ∧ line = key ++ '\t' :: rest := by
  obtain ⟨key, rest, hline, hkey⟩ := List.eq_append_cons_of_mem htab
  exact ⟨key, rest, hkey, hline⟩

theorem exists_fields_eq (text : Text) :
    ∃ others, Fact.fields text = text.takeWhile (· ≠ '\t') :: others := by
  by_cases htab : '\t' ∈ text
  · obtain ⟨first, rest, hfirst, rfl⟩ := exists_append_tab htab
    rw [Fact.fields, List.splitOn_append_cons_self_of_not_mem hfirst,
      takeWhile_append_tab hfirst]
    exact ⟨_, rfl⟩
  · have hwhole : text.takeWhile (· ≠ '\t') = text := by
      rw [List.takeWhile_eq_self_iff]
      intro character hmem
      simpa using ne_of_mem_of_not_mem hmem htab
    rw [Fact.fields_of_not_mem htab, hwhole]
    exact ⟨[], rfl⟩

theorem keyText_append_tab (htab : '\t' ∉ key) :
    keyText (key ++ '\t' :: rest) = key := by
  rw [keyText, if_pos (by simp), takeWhile_append_tab htab]

theorem countText_append_tab (htab : '\t' ∉ key) :
    countText (key ++ '\t' :: rest) = rest.takeWhile (· ≠ '\t') := by
  rw [countText, if_pos (by simp), dropWhile_append_tab htab, List.tail_cons]

end Fields

/-- A line is read as the count in its one place, under the key in its other. -/
theorem ofLine_eq (line : Text) :
    ofLine line = (Count.read (countText line)).map (KeyCount.mk (keyText line)) := by
  by_cases htab : '\t' ∈ line
  · obtain ⟨key, rest, hkey, rfl⟩ := exists_append_tab htab
    obtain ⟨others, hrest⟩ := exists_fields_eq rest
    have hfields : Fact.fields (key ++ '\t' :: rest) =
        key :: rest.takeWhile (· ≠ '\t') :: others := by
      rw [← hrest]
      exact List.splitOn_append_cons_self_of_not_mem hkey rest
    rw [ofLine_of_fields hfields, keyText_append_tab hkey,
      countText_append_tab hkey]
  · rw [ofLine, Fact.fields_of_not_mem htab, countText, if_neg htab, keyText,
      if_neg htab]

theorem ofLine_eq_ok_iff {line : Text} {total : KeyCount} :
    ofLine line = .ok total ↔ total.key = keyText line ∧
      Numeral.Denotes (countText line).trim total.count ∧
        Count.inRange total.count := by
  obtain ⟨key, count⟩ := total
  rw [ofLine_eq, Except.map_eq_ok_iff]
  simp only [KeyCount.mk.injEq, Count.read_eq_ok_iff]
  constructor
  · rintro ⟨_, hcount, rfl, rfl⟩
    exact ⟨rfl, hcount⟩
  · rintro ⟨rfl, hcount⟩
    exact ⟨count, hcount, rfl, rfl⟩

/-- What is behind the printed count is ignored if a tab divides it. -/
theorem ofLine_ofInt {key behind : Text} {count : Int} (htab : '\t' ∉ key)
    (hrange : Count.inRange count)
    (hbehind : behind = [] ∨ ∃ rest, behind = '\t' :: rest) :
    ofLine (key ++ '\t' :: (Numeral.ofInt count ++ behind)) =
      .ok ⟨key, count⟩ := by
  have hcount : (Numeral.ofInt count ++ behind).takeWhile (· ≠ '\t') =
      Numeral.ofInt count := by
    rcases hbehind with rfl | ⟨rest, rfl⟩
    · rw [List.append_nil, List.takeWhile_eq_self_iff]
      intro character hmem
      simpa using ne_of_mem_of_not_mem hmem (tab_not_mem_ofInt count)
    · exact takeWhile_append_tab (tab_not_mem_ofInt count)
  rw [ofLine_eq, keyText_append_tab htab, countText_append_tab htab, hcount,
    Count.read_ofInt hrange]
  rfl

/-- A line is a count exactly if a numeral of the range of counts is in its
place, and it is refused with what is there otherwise.  So a printed count is
read back under its key, whatever other fields follow. -/
theorem ofLine_accepts_numerals_in_range :
    (∀ line : Text,
      (∀ key count, ofLine line = .ok ⟨key, count⟩ ↔ key = keyText line ∧
        Numeral.Denotes (countText line).trim count ∧
          -2 ^ 63 ≤ count ∧ count < 2 ^ 63) ∧
      ((∀ count, Numeral.Denotes (countText line).trim count →
          ¬ (-2 ^ 63 ≤ count ∧ count < 2 ^ 63)) →
        ∃ fault, ofLine line = .error (.invalidCount (countText line) fault))) ∧
    ∀ (key rest : Text) (count : Int), '\t' ∉ key → -2 ^ 63 ≤ count →
      count < 2 ^ 63 →
        ofLine (key ++ '\t' :: Numeral.ofInt count) = .ok ⟨key, count⟩ ∧
        ofLine (key ++ '\t' :: (Numeral.ofInt count ++ '\t' :: rest)) =
          .ok ⟨key, count⟩ := by
  have hrange : ∀ count : Int,
      Count.inRange count ↔ -2 ^ 63 ≤ count ∧ count < 2 ^ 63 := by
    intro count
    rw [Count.inRange_iff]
    exact Iff.rfl
  refine ⟨fun line => ⟨fun key count => ?_, fun hnone => ?_⟩, ?_⟩
  · rw [ofLine_eq_ok_iff, hrange]
  · rw [ofLine_eq]
    cases hread : Count.read (countText line) with
    | error error =>
        obtain ⟨fault, rfl, -⟩ := Count.invalidCount_of_read hread
        exact ⟨fault, rfl⟩
    | ok count =>
        obtain ⟨hdenotes, hin⟩ := Count.read_eq_ok_iff.mp hread
        exact absurd ((hrange count).mp hin) (hnone count hdenotes)
  · intro key rest count htab hlow hhigh
    have hin : Count.inRange count := (hrange count).mpr ⟨hlow, hhigh⟩
    have hbare := ofLine_ofInt htab hin (.inl rfl)
    rw [List.append_nil] at hbare
    exact ⟨hbare, ofLine_ofInt htab hin (.inr ⟨rest, rfl⟩)⟩

theorem ofLine_accepts_numerals_in_range_at_limits :
    let least : Text := "k \t -009223372036854775808\u00a0\tmore".toList
    let sign : Text := "k\t + ".toList
    ofLine least = .ok ⟨"k ".toList, -9223372036854775808⟩ ∧
      (∀ count, Numeral.Denotes (countText sign).trim count →
        ¬ (-2 ^ 63 ≤ count ∧ count < 2 ^ 63)) ∧
      (∃ fault, ofLine sign = .error (.invalidCount " + ".toList fault)) ∧
      '\t' ∉ "k ".toList ∧ (-2 ^ 63 : Int) ≤ 9223372036854775807 ∧
      (9223372036854775807 : Int) < 2 ^ 63 ∧
      ofLine "k \t9223372036854775807".toList =
        .ok ⟨"k ".toList, 9223372036854775807⟩ := by
  intro least sign
  have hdigits : Text.IsDigits "009223372036854775808".toList :=
    ⟨by decide, List.all_eq_true.mp rfl⟩
  have hnone : ∀ count, Numeral.Denotes (countText sign).trim count →
      ¬ (-2 ^ 63 ≤ count ∧ count < 2 ^ 63) := by
    intro count hdenotes
    have hempty := (Numeral.denotes_plus_iff.mp hdenotes).1
    exact absurd hempty Text.not_isDigits_nil
  exact ⟨((ofLine_accepts_numerals_in_range.1 least).1 _ _).mpr
      ⟨rfl, .minus hdigits, by decide, by decide⟩,
    hnone, (ofLine_accepts_numerals_in_range.1 sign).2 hnone,
    by decide, by decide, by decide,
    (ofLine_accepts_numerals_in_range.2 "k ".toList [] 9223372036854775807
      (by decide) (by decide) (by decide)).1⟩

end FactStream.KeyCount
