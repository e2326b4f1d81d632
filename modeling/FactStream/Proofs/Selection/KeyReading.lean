import FactStream.Proofs.Selection.FilterCount

/-!
# What is read of the keys that a filter writes

A filter writes a projected field as it is, and a counter trims the line and
takes what stands before its first tab.  The two agree on the keys without tabs
that do not begin with a blank, and on no others.  Sorted facts with such keys
are in groups for the counter as well.
-/

namespace FactStream.FieldFilter

open KeyCount

/-- The fact is among those that the filter writes for the line. -/
def Emits (filter : FieldFilter) (positions : Positions) (line : Text)
    (fact : Fact) : Prop :=
  ∃ facts interrupted state outcome,
    filter.stage.step positions line =
        .write facts interrupted state outcome ∧
      fact ∈ facts

variable {filter : FieldFilter} {positions : Positions}

/-- Selection gives nothing, or it counts a field of the record once. -/
theorem facts_of_select {record : Record} {facts : List Fact}
    (hselect : filter.select positions record = .ok facts) :
    facts = [] ∨
      ∃ field ∈ record.fields, facts = [countOnce (keyOfField field)] := by
  cases hmatched : filter.matched.locate positions.matched with
  | error error =>
      rw [select, hmatched] at hselect
      cases hselect
  | ok matched =>
      cases hprojected : filter.projected.locate positions.projected with
      | error error =>
          rw [select, hmatched, hprojected] at hselect
          cases hselect
      | ok projected =>
          rw [select_of_located hmatched hprojected] at hselect
          split at hselect
          · injection hselect with hfacts
            rw [← hfacts]
            split
            · cases hfield : record.get? projected with
              | none => exact .inl rfl
              | some field =>
                  exact .inr ⟨field, List.mem_of_getElem? hfield, rfl⟩
            · exact .inl rfl
          · cases hselect

/-- A header row gives no facts. -/
theorem facts_of_readHeader {header : Record} {facts : List Fact}
    {interrupted state : Positions} {outcome : Outcome}
    (hreply : filter.readHeader positions header =
      .write facts interrupted state outcome) : facts = [] := by
  rw [readHeader] at hreply
  split at hreply
  · cases hreply
  · split at hreply
    · cases hreply
    · injection hreply with hfacts
      exact hfacts.symm

/-- Whatever the filter emits counts a field of the line once. -/
theorem exists_field_of_emits {line : Text} {fact : Fact}
    (hemits : filter.Emits positions line fact) :
    ∃ field ∈ (Record.mk line).fields, fact = countOnce (keyOfField field) := by
  obtain ⟨facts, interrupted, state, outcome, hreply, hfact⟩ := hemits
  change filter.step positions line = _ at hreply
  rw [step] at hreply
  split at hreply
  · rw [facts_of_readHeader hreply] at hfact
    exact absurd hfact List.not_mem_nil
  · split at hreply
    · cases hreply
    · rename_i selected hselect
      injection hreply with hfacts
      rw [← hfacts] at hfact
      rcases facts_of_select hselect with rfl | ⟨field, hfield, rfl⟩
      · exact absurd hfact List.not_mem_nil
      · exact ⟨field, hfield, List.mem_singleton.mp hfact⟩

section Emitted

variable {line : Text} {fact : Fact}

theorem eq_fact_once_of_emits (hemits : filter.Emits positions line fact) :
    fact = (once fact.key).fact := by
  obtain ⟨field, -, rfl⟩ := exists_field_of_emits hemits
  rfl

theorem key_ne_nil_of_emits (hemits : filter.Emits positions line fact) :
    fact.key ≠ [] := by
  obtain ⟨field, -, rfl⟩ := exists_field_of_emits hemits
  exact keyOfField_ne_nil field

theorem lineFeed_not_mem_key_of_emits (hfeed : '\n' ∉ line)
    (hemits : filter.Emits positions line fact) : '\n' ∉ fact.key := by
  obtain ⟨field, hfield, rfl⟩ := exists_field_of_emits hemits
  intro hmem
  have hmem_field := mem_of_mem_keyOfField (by decide) hmem
  exact hfeed (Record.mem_line_of_mem_field hfield hmem_field)

theorem lineFeed_not_mem_text_of_emits (hfeed : '\n' ∉ line)
    (hemits : filter.Emits positions line fact) : '\n' ∉ fact.text := by
  apply Fact.lineFeed_not_mem_text fact
    (lineFeed_not_mem_key_of_emits hfeed hemits)
  rw [eq_fact_once_of_emits hemits]
  exact lineFeed_not_mem_ofInt 1

/-- The counters read the key of an emitted fact when their trim and their cut
leave it alone. -/
theorem ofLine_emitted_iff (hfeed : '\n' ∉ line)
    (hemits : filter.Emits positions line fact) :
    ofLine fact.text.trim = .ok (once fact.key) ↔
      '\t' ∉ fact.key ∧ fact.key.beginsBlank = false := by
  constructor
  · intro hread
    exact ⟨tab_not_mem_key_of_ofLine hread,
      beginsBlank_key_of_ofLine (Text.beginsBlank_trim fact.text) hread⟩
  · rintro ⟨htab, hbegin⟩
    have hkey : fact.key.IsKey := ⟨key_ne_nil_of_emits hemits, hbegin, htab,
      lineFeed_not_mem_key_of_emits hfeed hemits⟩
    rw [eq_fact_once_of_emits hemits]
    exact ofLine_trim_fact (isFramed_once hkey)

theorem map_reading?_emitted_iff (hfeed : '\n' ∉ line)
    (hemits : filter.Emits positions line fact) :
    fact.bytes.lines.map reading? = [some (once fact.key)] ↔
      '\t' ∉ fact.key ∧ fact.key.beginsBlank = false := by
  have hread : (Fact.stream [fact]).lines.map reading? =
      [(ofLine fact.text.trim).toOption] :=
    map_reading?_lines_stream
      (List.forall_mem_singleton.mpr
        (lineFeed_not_mem_text_of_emits hfeed hemits))
  rw [Fact.stream_cons, Fact.stream_nil, List.append_nil] at hread
  rw [hread, ← ofLine_emitted_iff hfeed hemits]
  cases ofLine fact.text.trim <;> simp [Except.toOption]

end Emitted

/-- Sorted by their keys, facts that are read back are in groups of one key. -/
theorem map_reading?_sorted {facts : List Fact}
    (hemitted : ∀ fact ∈ facts,
      (∃ positions line, '\n' ∉ line ∧ filter.Emits positions line fact) ∧
        '\t' ∉ fact.key ∧ fact.key.beginsBlank = false) :
    ∃ keys : List Text,
      keys.Perm (facts.map Fact.key) ∧ Shuffle.Contiguous keys ∧
        (Shuffle.byKey.prepareBytes (Fact.stream facts)).lines.map reading? =
          keys.map fun key => some (once key) := by
  have htab : ∀ fact ∈ facts, '\t' ∉ fact.key :=
    fun fact hfact => (hemitted fact hfact).2.1
  have hfeed : ∀ fact ∈ facts, '\n' ∉ fact.text := by
    intro fact hfact
    obtain ⟨⟨positions, line, hline, hemits⟩, -⟩ := hemitted fact hfact
    exact lineFeed_not_mem_text_of_emits hline hemits
  have hsorted := Shuffle.pairwise_sortBy Fact.key facts
  have hperm := Shuffle.sortBy_perm Fact.key facts
  have hprepared : Shuffle.byKey.prepareBytes (Fact.stream (facts.map id)) =
      Fact.stream ((Shuffle.sortBy Fact.key facts).map id) :=
    Shuffle.prepareBytes_stream htab hfeed
  rw [List.map_id, List.map_id] at hprepared
  refine ⟨(Shuffle.sortBy Fact.key facts).map Fact.key, hperm.map Fact.key,
    Shuffle.contiguous_of_pairwise (List.pairwise_map.mpr hsorted), ?_⟩
  have hread : ∀ fact ∈ Shuffle.sortBy Fact.key facts,
      (ofLine fact.text.trim).toOption = some (once fact.key) := by
    intro fact hfact
    obtain ⟨⟨positions, line, hline, hemits⟩, hkey⟩ :=
      hemitted fact (hperm.mem_iff.mp hfact)
    rw [(ofLine_emitted_iff hline hemits).mpr hkey]
    rfl
  calc
    (Shuffle.byKey.prepareBytes (Fact.stream facts)).lines.map reading? =
        (Fact.stream (Shuffle.sortBy Fact.key facts)).lines.map reading? := by
      rw [hprepared]
    _ = (Shuffle.sortBy Fact.key facts).map fun fact =>
        (ofLine fact.text.trim).toOption :=
      map_reading?_lines_stream fun fact hfact =>
        hfeed fact (hperm.mem_iff.mp hfact)
    _ = (Shuffle.sortBy Fact.key facts).map fun fact => some (once fact.key) :=
      List.map_congr_left hread
    _ = ((Shuffle.sortBy Fact.key facts).map Fact.key).map fun key =>
        some (once key) := by
      rw [List.map_map]
      rfl

/-- The counters read an emitted fact as its key, counted once, exactly when the
key has no tab and does not begin with a blank.  Facts with such keys, sorted by
their keys, are read one by one, and those of one key stand together. -/
theorem emitted_facts_are_read_back_iff (filter : FieldFilter) :
    (∀ positions line fact,
      '\n' ∉ line → filter.Emits positions line fact →
        (fact.bytes.lines.map reading? = [some ⟨fact.key, 1⟩] ↔
          '\t' ∉ fact.key ∧ fact.key.beginsBlank = false)) ∧
    ∀ facts : List Fact,
      (∀ fact ∈ facts,
        (∃ positions line, '\n' ∉ line ∧ filter.Emits positions line fact) ∧
          '\t' ∉ fact.key ∧ fact.key.beginsBlank = false) →
      ∃ keys : List Text,
        keys.Perm (facts.map Fact.key) ∧ Shuffle.Contiguous keys ∧
          (Shuffle.byKey.prepareBytes (Fact.stream facts)).lines.map reading? =
            keys.map fun key => some ⟨key, 1⟩ :=
  ⟨fun _ _ _ hfeed hemits => map_reading?_emitted_iff hfeed hemits,
    fun _ hemitted => map_reading?_sorted hemitted⟩

theorem emitted_facts_are_read_back_iff_on_blank_field :
    let filter : FieldFilter := ⟨['t'], .named "kind".toList, .index 1⟩
    let positions : Positions := ⟨some 0, none⟩
    let facts : List Fact :=
      [countOnce "b".toList, countOnce "' '".toList, countOnce "b".toList]
    (∀ fact ∈ facts, ∃ line : Text, filter.Emits positions line fact ∧
      fact.bytes.lines.map reading? = [some ⟨fact.key, 1⟩]) ∧
    ∃ keys : List Text,
      keys.Perm (facts.map Fact.key) ∧ Shuffle.Contiguous keys ∧
        (Shuffle.byKey.prepareBytes (Fact.stream facts)).lines.map reading? =
          keys.map fun key => some ⟨key, 1⟩ := by
  intro filter positions facts
  have hfilled : filter.Emits positions "t,b".toList (countOnce "b".toList) :=
    ⟨_, _, _, _, rfl, List.mem_singleton_self _⟩
  have hblank : filter.Emits positions "t, ,z".toList
      (countOnce "' '".toList) :=
    ⟨_, _, _, _, rfl, List.mem_singleton_self _⟩
  obtain ⟨hread, hsorted⟩ := filter.emitted_facts_are_read_back_iff
  have hemitted : ∀ fact ∈ facts, ∃ line : Text,
      '\n' ∉ line ∧ filter.Emits positions line fact := by
    rw [List.forall_mem_cons, List.forall_mem_cons, List.forall_mem_singleton]
    exact ⟨⟨_, by decide, hfilled⟩, ⟨_, by decide, hblank⟩,
      ⟨_, by decide, hfilled⟩⟩
  have hkeys : ∀ fact ∈ facts,
      '\t' ∉ fact.key ∧ fact.key.beginsBlank = false := by decide
  refine ⟨?_, hsorted facts fun fact hfact =>
    ⟨⟨positions, hemitted fact hfact⟩, hkeys fact hfact⟩⟩
  intro fact hfact
  obtain ⟨line, hfeed, hemits⟩ := hemitted fact hfact
  exact ⟨line, hemits,
    (hread positions line fact hfeed hemits).mpr (hkeys fact hfact)⟩

/-- A projected field is written with the blanks in front of it, which the
counters trim away with those in front of the line. -/
theorem not_every_emitted_fact_is_read_back :
    ¬ ∀ (filter : FieldFilter) (positions : Positions) (line : Text)
      (fact : Fact),
      line.trim = line → '\n' ∉ line → filter.Emits positions line fact →
        fact.bytes.lines.map reading? = [some ⟨fact.key, 1⟩] := by
  intro hall
  have hemits : (atIndices ['t'] 0 1).Emits unresolved "t, b".toList
      (countOnce " b".toList) :=
    ⟨_, _, _, _, rfl, List.mem_singleton_self _⟩
  have hread := hall _ _ _ _ (by decide) (by decide) hemits
  have hkey := (map_reading?_emitted_iff (by decide) hemits).mp hread
  exact absurd hkey.2 (by decide)

end FactStream.FieldFilter
