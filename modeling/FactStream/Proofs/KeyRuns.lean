import FactStream.Text.Blank
import Mathlib.Data.List.SplitBy

/-!
# Maximal runs of one key

Whoever holds one key at a time sees a list of items as the maximal runs of
items that stand together under one key.  A list is therefore taken apart run by
run, and whatever is said of all lists need only be said of a run in front of a
list that begins with another key.
-/

namespace FactStream

section KeyRuns

variable {Item : Type} (key : Item → Text)

/-- The items, cut wherever the key changes. -/
def keyRuns (items : List Item) : List (List Item) :=
  items.splitBy fun first second => key first == key second

variable {key} {items rest : List Item} {wanted : Text}

@[simp]
theorem keyRuns_nil : keyRuns key [] = [] :=
  List.splitBy_nil _

theorem flatten_keyRuns (items : List Item) :
    (keyRuns key items).flatten = items :=
  List.flatten_splitBy _ items

theorem sublist_of_mem_keyRuns {run : List Item}
    (hrun : run ∈ keyRuns key items) : run.Sublist items := by
  rw [← @flatten_keyRuns _ key items]
  exact List.sublist_flatten_of_mem hrun

/-- Items of one key are one run. -/
theorem keyRuns_of_key (hne : items ≠ [])
    (hitems : ∀ item ∈ items, key item = wanted) :
    keyRuns key items = [items] := by
  apply List.splitBy_of_isChain hne
  apply List.Pairwise.isChain
  apply List.pairwise_of_forall_mem_list
  intro first hfirst second hsecond
  simp [hitems first hfirst, hitems second hsecond]

theorem keyRuns_singleton (item : Item) : keyRuns key [item] = [[item]] :=
  keyRuns_of_key (List.cons_ne_nil item [])
    (List.forall_mem_singleton.mpr (Eq.refl (key item)))

/-- Where two lists meet under different keys, one run ends and another
begins. -/
theorem keyRuns_append_of_ne
    (hmeet : ∀ last ∈ items.getLast?, ∀ next ∈ rest.head?,
      key last ≠ key next) :
    keyRuns key (items ++ rest) = keyRuns key items ++ keyRuns key rest := by
  apply List.splitBy_append
  intro last hlast next hnext
  simpa using hmeet last hlast next hnext

/-- Items of one key in front of an item of another are the first run. -/
theorem keyRuns_append (hne : items ≠ [])
    (hitems : ∀ item ∈ items, key item = wanted)
    (hnext : ∀ next ∈ rest.head?, wanted ≠ key next) :
    keyRuns key (items ++ rest) = items :: keyRuns key rest := by
  have hmeet : ∀ last ∈ items.getLast?, ∀ next ∈ rest.head?,
      key last ≠ key next := by
    intro last hlast
    rw [hitems last (List.mem_of_getLast? hlast)]
    exact hnext
  rw [keyRuns_append_of_ne hmeet, keyRuns_of_key hne hitems,
    List.singleton_append]

/-- Items that stand beside other keys only are runs of their own. -/
theorem keyRuns_of_isChain
    (hchain : items.IsChain fun first second => key first ≠ key second) :
    keyRuns key items = items.map fun item => [item] := by
  induction items with
  | nil => simp
  | cons first others ih =>
      obtain ⟨hnext, hrest⟩ := List.isChain_cons.mp hchain
      have hfirst : ∀ item ∈ [first], key item = key first :=
        List.forall_mem_singleton.mpr rfl
      rw [← List.singleton_append, keyRuns_append (by simp) hfirst hnext,
        ih hrest, List.singleton_append, List.map_cons]

/-- A list begins with some items of a key, perhaps none, and goes on, if at all,
with another key. -/
theorem exists_append_of_key (key : Item → Text) (wanted : Text)
    (items : List Item) :
    ∃ front rest, items = front ++ rest ∧
      (∀ item ∈ front, key item = wanted) ∧
      ∀ next ∈ rest.head?, wanted ≠ key next := by
  induction items with
  | nil => exact ⟨[], [], rfl, List.forall_mem_nil _, by simp⟩
  | cons first items ih =>
      by_cases hkey : key first = wanted
      · obtain ⟨front, rest, rfl, hfront, hnext⟩ := ih
        exact ⟨first :: front, rest, rfl,
          List.forall_mem_cons.mpr ⟨hkey, hfront⟩, hnext⟩
      · refine ⟨[], first :: items, rfl, List.forall_mem_nil _, ?_⟩
        simpa using Ne.symm hkey

/-- What holds of the empty list, and of a run in front of a list that it holds
of, holds of every list. -/
theorem keyRuns_induction (key : Item → Text) {motive : List Item → Prop}
    (nil : motive [])
    (append : ∀ wanted items rest, items ≠ [] →
      (∀ item ∈ items, key item = wanted) →
      (∀ next ∈ rest.head?, wanted ≠ key next) →
      motive rest → motive (items ++ rest))
    (items : List Item) : motive items := by
  match items with
  | [] => exact nil
  | first :: others =>
      obtain ⟨front, rest, hothers, hfront, hnext⟩ :=
        exists_append_of_key key (key first) others
      have hshorter : rest.length < others.length + 1 := by
        rw [hothers, List.length_append]
        omega
      rw [hothers]
      exact append (key first) (first :: front) rest (List.cons_ne_nil _ _)
        (List.forall_mem_cons.mpr ⟨rfl, hfront⟩) hnext
        (keyRuns_induction key nil append rest)
termination_by items.length
decreasing_by exact hshorter

/-- A run is not empty, and its items have one key. -/
theorem uniform_of_mem_keyRuns {run : List Item}
    (hrun : run ∈ keyRuns key items) :
    run ≠ [] ∧ ∃ wanted, ∀ item ∈ run, key item = wanted := by
  induction items using keyRuns_induction key with
  | nil => simp at hrun
  | append wanted items rest hne hitems hnext ih =>
      rw [keyRuns_append hne hitems hnext, List.mem_cons] at hrun
      cases hrun with
      | inl hfirst => exact hfirst ▸ ⟨hne, wanted, hitems⟩
      | inr hlater => exact ih hlater

theorem head?_bind_keyRuns (items : List Item) :
    (keyRuns key items).head?.bind List.head? = items.head? := by
  induction items using keyRuns_induction key with
  | nil => simp
  | append wanted items rest hne hitems hnext ih =>
      rw [keyRuns_append hne hitems hnext, List.head?_append_of_ne_nil _ hne]
      rfl

/-- Behind a run that ends, the runs begin anew. -/
theorem keyRuns_append_of_runs {runs : List (List Item)} {last : List Item}
    (hruns : keyRuns key items = runs ++ [last])
    (hlast : ∀ item ∈ last, key item = wanted)
    (hnext : ∀ next ∈ rest.head?, wanted ≠ key next) :
    keyRuns key (items ++ rest) = runs ++ last :: keyRuns key rest := by
  have hmem : last ∈ keyRuns key items := by
    rw [hruns]
    exact List.mem_append_right runs (List.mem_singleton_self last)
  have hne : last ≠ [] := (uniform_of_mem_keyRuns hmem).1
  have hitems : items = runs.flatten ++ last := by
    have hflatten := @flatten_keyRuns Item key items
    rw [hruns] at hflatten
    simpa using hflatten.symm
  have hmeet : ∀ final ∈ items.getLast?, ∀ next ∈ rest.head?,
      key final ≠ key next := by
    intro final hfinal
    rw [hitems, List.getLast?_append_of_ne_nil _ hne] at hfinal
    rw [hlast final (List.mem_of_getLast? hfinal)]
    exact hnext
  rw [keyRuns_append_of_ne hmeet, hruns, List.append_assoc,
    List.singleton_append]

variable (key) in
/-- The key of a run, which its first item has as well as all others. -/
def runKey (run : List Item) : Text :=
  (run.head?.map key).getD []

theorem runKey_of_key {run : List Item} (hne : run ≠ [])
    (hrun : ∀ item ∈ run, key item = wanted) : runKey key run = wanted := by
  cases run with
  | nil => exact absurd rfl hne
  | cons first others => exact hrun first List.mem_cons_self

/-- How runs grow by one more item: it begins the first of them, it goes on with
the last, or it begins another behind the last. -/
inductive RunsGrow (key : Item → Text) (next : Item) :
    List (List Item) → List (List Item) → Prop
  | first : RunsGrow key next [] [[next]]
  | same {runs : List (List Item)} {last : List Item} (hne : last ≠ [])
      (hsame : ∀ item ∈ last, key item = key next) :
      RunsGrow key next (runs ++ [last]) (runs ++ [last ++ [next]])
  | other {runs : List (List Item)} {last : List Item} {wanted : Text}
      (hne : last ≠ []) (hlast : ∀ item ∈ last, key item = wanted)
      (hother : wanted ≠ key next) :
      RunsGrow key next (runs ++ [last]) (runs ++ [last] ++ [[next]])

theorem RunsGrow.cons {next : Item} {before after : List (List Item)}
    (hgrow : RunsGrow key next before after) (hbefore : before ≠ [])
    (run : List Item) : RunsGrow key next (run :: before) (run :: after) := by
  cases hgrow with
  | first => exact absurd rfl hbefore
  | @same runs last hne hsame =>
      exact @RunsGrow.same _ _ _ (run :: runs) last hne hsame
  | @other runs last wanted hne hlast hother =>
      exact @RunsGrow.other _ _ _ (run :: runs) last wanted hne hlast hother

theorem keyRuns_concat (items : List Item) (next : Item) :
    RunsGrow key next (keyRuns key items) (keyRuns key (items ++ [next])) := by
  induction items using keyRuns_induction key with
  | nil => exact .first
  | append wanted items rest hne hitems hnext ih =>
      rw [keyRuns_append hne hitems hnext, List.append_assoc]
      cases rest with
      | nil =>
          by_cases hsame : wanted = key next
          · have hmore : ∀ item ∈ items ++ [next], key item = wanted := by
              rw [List.forall_mem_append, List.forall_mem_singleton]
              exact ⟨hitems, hsame.symm⟩
            rw [List.nil_append, keyRuns_of_key (by simp) hmore]
            exact @RunsGrow.same _ _ _ [] items hne (hsame ▸ hitems)
          · rw [List.nil_append, keyRuns_append hne hitems (by simpa),
              keyRuns_singleton]
            exact @RunsGrow.other _ _ _ [] items wanted hne hitems hsame
      | cons first others =>
          rw [keyRuns_append hne hitems (by simpa using hnext)]
          apply ih.cons
          intro hnone
          simpa [hnone] using @flatten_keyRuns Item key (first :: others)

end KeyRuns

end FactStream
