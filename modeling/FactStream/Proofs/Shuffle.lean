import FactStream.Proofs.Fact
import FactStream.Proofs.KeyRuns
import FactStream.Proofs.Text.FirstOccurrences
import Mathlib.Data.Char
import Mathlib.Data.Finset.Sort
import Mathlib.Data.List.Lex

/-!
# Shuffled lines stand in groups

A stable sort by key puts the lines of one key together without changing their
order, so sorted lines are known as soon as the keys are: key by key in
ascending order, the lines of that key as they came.
-/

namespace FactStream.Shuffle

variable {Item : Type}

/-- Sorts items by a key as lines are sorted by theirs. -/
def sortBy (key : Item → Text) (items : List Item) : List Item :=
  items.mergeSort fun left right => !decide (key right < key left)

/-- The texts that occur, each once, in ascending order. -/
def ascending (texts : List Text) : List Text :=
  texts.toFinset.sort (· ≤ ·)

theorem mem_ascending {text : Text} {texts : List Text} :
    text ∈ ascending texts ↔ text ∈ texts := by
  rw [ascending, Finset.mem_sort, List.mem_toFinset]

theorem pairwise_ascending (texts : List Text) :
    (ascending texts).Pairwise (· < ·) :=
  (Finset.sortedLT_sort texts.toFinset).pairwise

theorem ascending_congr {left right : List Text}
    (hmem : ∀ text, text ∈ left ↔ text ∈ right) :
    ascending left = ascending right := by
  have hfinset : left.toFinset = right.toFinset := by
    ext text
    simpa using hmem text
  rw [ascending, ascending, hfinset]

theorem ascending_of_pairwise {texts : List Text}
    (hsorted : texts.Pairwise (· < ·)) : ascending texts = texts := by
  have hnodup : texts.Nodup := hsorted.imp fun hlt => ne_of_lt hlt
  rw [ascending, List.toFinset_sort _ hnodup]
  exact hsorted.imp le_of_lt

/-- In ascending order, what is made of a text stands between the texts below it
and those above. -/
theorem ascending_around {texts middle more : List Text} {text : Text}
    (hmiddle : middle = [] ∨ middle = [text])
    (hmore : ∀ other, other ∈ more ↔
      other ∈ middle ∨ other ∈ texts ∧ other ≠ text) :
    ascending more = (ascending texts).filter (· < text) ++
      (middle ++ (ascending texts).filter (text < ·)) := by
  have hmem : ∀ other ∈ middle, other = text := by
    rcases hmiddle with rfl | rfl <;> simp
  have hpairwise : middle.Pairwise (· < ·) := by
    rcases hmiddle with rfl | rfl <;> simp
  have hsorted : ((ascending texts).filter (· < text) ++
      (middle ++ (ascending texts).filter (text < ·))).Pairwise (· < ·) := by
    rw [List.pairwise_append, List.pairwise_append]
    refine ⟨(pairwise_ascending _).filter _,
      ⟨hpairwise, (pairwise_ascending _).filter _, ?_⟩, ?_⟩
    · intro here hhere higher hhigher
      rw [hmem here hhere]
      exact of_decide_eq_true (List.mem_filter.mp hhigher).2
    · intro lower hlower higher hhigher
      have hlt : lower < text := of_decide_eq_true (List.mem_filter.mp hlower).2
      cases List.mem_append.mp hhigher with
      | inl hhere => rwa [hmem higher hhere]
      | inr habove =>
          exact hlt.trans (of_decide_eq_true (List.mem_filter.mp habove).2)
  rw [← ascending_of_pairwise hsorted]
  apply ascending_congr
  intro other
  rw [hmore, ne_iff_lt_or_gt]
  simp only [List.mem_append, List.mem_filter, mem_ascending,
    decide_eq_true_eq]
  tauto

/-- Equal texts stand together: there is no other text between them. -/
def Contiguous (texts : List Text) : Prop :=
  ∀ text other, [text, other, text].Sublist texts → other = text

instance contiguousDecidable (texts : List Text) :
    Decidable (Contiguous texts) :=
  decidable_of_iff (∀ text ∈ texts, ∀ other ∈ texts,
      [text, other, text].Sublist texts → other = text)
    ⟨fun hstands text other hsublist =>
      hstands text (hsublist.mem List.mem_cons_self) other
        (hsublist.mem (List.mem_cons_of_mem _ List.mem_cons_self)) hsublist,
    fun hstands text _ other _ => hstands text other⟩

theorem Contiguous.sublist {part texts : List Text}
    (hcontiguous : Contiguous texts) (hpart : part.Sublist texts) :
    Contiguous part :=
  fun text other hsublist => hcontiguous text other (hsublist.trans hpart)

theorem contiguous_of_pairwise {texts : List Text}
    (hsorted : texts.Pairwise (· ≤ ·)) : Contiguous texts := by
  intro text other hsublist
  have hordered := hsorted.sublist hsublist
  simp only [List.pairwise_cons, List.mem_cons, forall_eq_or_imp] at hordered
  exact le_antisymm hordered.2.1.1 hordered.1.1

section Runs

variable {key : Item → Text} {items rest : List Item} {wanted : Text}

/-- A key that stands together does not come back behind another one. -/
theorem key_ne_of_contiguous (hne : items ≠ [])
    (hitems : ∀ item ∈ items, key item = wanted)
    (hnext : ∀ next ∈ rest.head?, wanted ≠ key next)
    (hcontiguous : Contiguous ((items ++ rest).map key)) :
    wanted ∉ rest.map key := by
  intro hback
  cases rest with
  | nil => exact absurd hback List.not_mem_nil
  | cons next rest =>
      have hother : wanted ≠ key next := hnext next rfl
      have hlater : wanted ∈ rest.map key :=
        (List.mem_cons.mp hback).resolve_left hother
      have hfirst : wanted ∈ items.map key := by
        obtain ⟨item, hitem⟩ := List.exists_mem_of_ne_nil items hne
        exact List.mem_map.mpr ⟨item, hitem, hitems item hitem⟩
      have hbetween : [wanted, key next, wanted].Sublist
          ((items ++ next :: rest).map key) := by
        rw [List.map_append, List.map_cons]
        exact (List.singleton_sublist.mpr hfirst).append
          ((List.singleton_sublist.mpr hlater).cons_cons (key next))
      exact hother (hcontiguous wanted (key next) hbetween).symm

/-- Where every key stands together, there is one run for each key, and it has
all items of the key. -/
theorem keyRuns_of_contiguous (hcontiguous : Contiguous (items.map key)) :
    keyRuns key items = (items.map key).eraseDups.map fun wanted =>
      items.filter fun item => key item = wanted := by
  induction items using keyRuns_induction key with
  | nil => rw [keyRuns_nil, List.map_nil, List.eraseDups_nil, List.map_nil]
  | append wanted items rest hne hitems hnext ih =>
      have hback := key_ne_of_contiguous hne hitems hnext hcontiguous
      have hkeys : ∀ other ∈ items.map key, other = wanted := by
        simpa using hitems
      have hrun : items.filter (fun item => key item = wanted) = items :=
        List.filter_eq_self.mpr fun item hitem =>
          decide_eq_true (hitems item hitem)
      have hnone : rest.filter (fun item => key item = wanted) = [] := by
        apply List.filter_eq_nil_iff.mpr
        intro item hitem hkey
        exact hback (List.mem_map.mpr ⟨item, hitem, of_decide_eq_true hkey⟩)
      have hothers : ∀ other ∈ (rest.map key).eraseDups,
          rest.filter (fun item => key item = other) =
            (items ++ rest).filter fun item => key item = other := by
        intro other hother
        have hdifferent : wanted ≠ other :=
          (ne_of_mem_of_not_mem (List.mem_eraseDups.mp hother) hback).symm
        rw [List.filter_append, List.self_eq_append_left,
          List.filter_eq_nil_iff]
        intro item hitem hkey
        exact hdifferent
          ((hitems item hitem).symm.trans (of_decide_eq_true hkey))
      rw [keyRuns_append hne hitems hnext, List.map_append,
        Text.eraseDups_append_of_eq (by simpa using hne) hkeys hback,
        List.map_cons, List.filter_append, hrun, hnone, List.append_nil,
        ih (hcontiguous.sublist ?_), List.map_congr_left hothers]
      exact (List.sublist_append_right items rest).map key

end Runs

theorem sortBy_perm (key : Item → Text) (items : List Item) :
    (sortBy key items).Perm items :=
  List.mergeSort_perm items _

section Order

variable (key : Item → Text)

private theorem notAfter_iff (left right : Item) :
    (!decide (key right < key left)) = true ↔ key left ≤ key right := by
  simp

private theorem notAfter_trans (first second third : Item) :
    (!decide (key second < key first)) = true →
      (!decide (key third < key second)) = true →
        (!decide (key third < key first)) = true := by
  simp only [notAfter_iff]
  exact le_trans

private theorem notAfter_total (left right : Item) :
    (!decide (key right < key left) || !decide (key left < key right)) =
      true := by
  rw [Bool.or_eq_true, notAfter_iff, notAfter_iff]
  exact le_total (key left) (key right)

theorem pairwise_sortBy (items : List Item) :
    (sortBy key items).Pairwise fun left right => key left ≤ key right := by
  have hpairwise :=
    List.pairwise_mergeSort (notAfter_trans key) (notAfter_total key) items
  exact hpairwise.imp fun {left right} => (notAfter_iff key left right).mp

/-- The sort is stable: the items of one key keep their order. -/
theorem filter_sortBy (items : List Item) (wanted : Text) :
    (sortBy key items).filter (fun item => key item = wanted) =
      items.filter fun item => key item = wanted := by
  have hgroup : (items.filter fun item => key item = wanted).Pairwise
      fun left right => (!decide (key right < key left)) = true := by
    apply List.pairwise_of_forall_mem_list
    intro left hleft right hright
    rw [notAfter_iff, of_decide_eq_true (List.mem_filter.mp hleft).2,
      of_decide_eq_true (List.mem_filter.mp hright).2]
  have hsublist : (items.filter fun item => key item = wanted).Sublist
      (sortBy key items) :=
    List.sublist_mergeSort (notAfter_trans key) (notAfter_total key) hgroup
      List.filter_sublist
  have hfiltered := hsublist.filter fun item => decide (key item = wanted)
  rw [List.filter_filter] at hfiltered
  simp only [Bool.and_self] at hfiltered
  refine (hfiltered.eq_of_length ?_).symm
  exact ((sortBy_perm key items).filter _).length_eq.symm

theorem contiguous_map_sortBy (items : List Item) :
    Contiguous ((sortBy key items).map key) :=
  contiguous_of_pairwise (List.pairwise_map.mpr (pairwise_sortBy key items))

/-- Sorted keys, each once, are the keys in ascending order. -/
theorem eraseDups_map_sortBy (items : List Item) :
    ((sortBy key items).map key).eraseDups = ascending (items.map key) := by
  have hsorted : ((sortBy key items).map key).Pairwise (· ≤ ·) :=
    List.pairwise_map.mpr (pairwise_sortBy key items)
  have hle := hsorted.sublist (Text.eraseDups_sublist _)
  have hlt : ((sortBy key items).map key).eraseDups.Pairwise (· < ·) :=
    hle.imp₂ (fun _ _ => lt_of_le_of_ne) (Text.nodup_eraseDups _)
  rw [← ascending_of_pairwise hlt]
  apply ascending_congr
  intro text
  rw [List.mem_eraseDups]
  exact ((sortBy_perm key items).map key).mem_iff

/-- Sorted items stand in one run for each key: the items of the key as they
came, key by key in ascending order. -/
theorem keyRuns_sortBy (items : List Item) :
    keyRuns key (sortBy key items) =
      (ascending (items.map key)).map fun wanted =>
        items.filter fun item => key item = wanted := by
  rw [keyRuns_of_contiguous (contiguous_map_sortBy key items),
    eraseDups_map_sortBy]
  simp only [filter_sortBy]

end Order

/-- Lines that stand for items are sorted as the items are. -/
theorem sortLines_map {key : Item → Text} {line : Item → Text}
    {items : List Item}
    (hkey : ∀ item ∈ items, keyOfLine (line item) = key item) :
    sortLines (items.map line) = (sortBy key items).map line := by
  rw [sortLines, sortBy]
  refine (List.map_mergeSort ?_).symm
  intro left hleft right hright
  rw [hkey left hleft, hkey right hright]

/-- The lines are sorted and nothing is put in front of them. -/
def byKey : Preparation :=
  ⟨true, none⟩

theorem prepareBytes_byKey {lines : List Text}
    (hlines : ∀ line ∈ lines, '\n' ∉ line) :
    byKey.prepareBytes (Text.ofLines lines).encode =
      (Text.ofLines (sortLines lines)).encode := by
  rw [Preparation.prepareBytes, Bytes.decode?_encode]
  simp [Preparation.prepare, Preparation.prepareLines, byKey,
    Text.lines_ofLines hlines]

/-- The order is kept and a text is put in front of every line. -/
def behind (label : Text) : Preparation :=
  ⟨false, some label⟩

theorem prepareBytes_behind (label : Text) {lines : List Text}
    (hlines : ∀ line ∈ lines, '\n' ∉ line) :
    (behind label).prepareBytes (Text.ofLines lines).encode =
      (Text.ofLines (lines.map (label ++ ·))).encode := by
  rw [Preparation.prepareBytes, Bytes.decode?_encode]
  simp [Preparation.prepare, Preparation.prepareLines, behind,
    Text.lines_ofLines hlines]

/-- Shuffling a stream of facts sorts what the facts stand for. -/
theorem prepareBytes_stream {fact : Item → Fact} {items : List Item}
    (htab : ∀ item ∈ items, '\t' ∉ (fact item).key)
    (hfeed : ∀ item ∈ items, '\n' ∉ (fact item).text) :
    byKey.prepareBytes (Fact.stream (items.map fact)) =
      Fact.stream ((sortBy (fun item => (fact item).key) items).map fact) := by
  have hlines : ∀ line ∈ (items.map fact).map Fact.text, '\n' ∉ line := by
    rwa [List.map_map, List.forall_mem_map]
  rw [Fact.stream_eq_encode, prepareBytes_byKey hlines, Fact.stream_eq_encode,
    List.map_map, List.map_map]
  congr 2
  exact sortLines_map fun item hitem =>
    Fact.keyOfLine_text (fact item) (htab item hitem)

end FactStream.Shuffle
