import FactStream.Text.Blank
import Mathlib.Data.List.Induction
import Mathlib.Data.List.Nodup

/-!
# First occurrences

Texts, each once, in the order in which they first occur: one that comes last is
new or it changes nothing.
-/

namespace FactStream.Text

/-- A text that comes last is kept if it has not come before. -/
theorem eraseDups_concat (texts : List Text) (text : Text) :
    (texts ++ [text]).eraseDups =
      if text ∈ texts then texts.eraseDups else texts.eraseDups ++ [text] := by
  rw [List.eraseDups_append]
  by_cases hmem : text ∈ texts
  · simp [List.removeAll, hmem]
  · simp [List.removeAll, List.eraseDups_cons, hmem]

theorem nodup_eraseDups (texts : List Text) : texts.eraseDups.Nodup := by
  induction texts using List.reverseRecOn with
  | nil => exact List.nodup_nil
  | append_singleton texts text ih =>
      rw [eraseDups_concat]
      by_cases hmem : text ∈ texts
      · rwa [if_pos hmem]
      · rw [if_neg hmem]
        refine ih.append (List.nodup_singleton text) ?_
        rwa [List.disjoint_singleton, List.mem_eraseDups]

theorem eraseDups_sublist (texts : List Text) :
    texts.eraseDups.Sublist texts := by
  induction texts using List.reverseRecOn with
  | nil => exact List.Sublist.refl []
  | append_singleton texts text ih =>
      rw [eraseDups_concat]
      by_cases hmem : text ∈ texts
      · rw [if_pos hmem]
        exact ih.trans (List.sublist_append_left texts [text])
      · rw [if_neg hmem]
        exact ih.append_right [text]

theorem eraseDups_filter (wanted : Text → Bool) (texts : List Text) :
    (texts.filter wanted).eraseDups = texts.eraseDups.filter wanted := by
  induction texts using List.reverseRecOn with
  | nil => rfl
  | append_singleton texts text ih =>
      rw [eraseDups_concat, List.filter_append]
      by_cases hwanted : wanted text
      · rw [List.filter_cons_of_pos hwanted, List.filter_nil,
          eraseDups_concat, ih]
        by_cases hmem : text ∈ texts
        · rw [if_pos (List.mem_filter.mpr ⟨hmem, hwanted⟩), if_pos hmem]
        · rw [if_neg fun h => hmem (List.mem_filter.mp h).1, if_neg hmem,
            List.filter_append, List.filter_cons_of_pos hwanted,
            List.filter_nil]
      · rw [List.filter_cons_of_neg hwanted, List.filter_nil, List.append_nil,
          ih]
        by_cases hmem : text ∈ texts
        · rw [if_pos hmem]
        · rw [if_neg hmem, List.filter_append, List.filter_cons_of_neg hwanted,
            List.filter_nil, List.append_nil]

/-- What is new behind a text depends on what is new without it. -/
theorem eraseDups_cons_congr (text : Text) {left right : List Text}
    (heq : left.eraseDups = right.eraseDups) :
    (text :: left).eraseDups = (text :: right).eraseDups := by
  rw [List.eraseDups_cons, List.eraseDups_cons, eraseDups_filter,
    eraseDups_filter, heq]

theorem eraseDups_cons_cons (text : Text) (texts : List Text) :
    (text :: text :: texts).eraseDups = (text :: texts).eraseDups := by
  rw [List.eraseDups_cons, List.eraseDups_cons, List.filter_cons_of_neg]
  simp

/-- Texts that are all the same give that one text, if it does not come back. -/
theorem eraseDups_append_of_eq {texts rest : List Text} {text : Text}
    (hne : texts ≠ []) (htexts : ∀ other ∈ texts, other = text)
    (hrest : text ∉ rest) :
    (texts ++ rest).eraseDups = text :: rest.eraseDups := by
  have hkept : rest.filter (fun other => !other == text) = rest := by
    apply List.filter_eq_self.mpr
    intro other hother
    simpa using ne_of_mem_of_not_mem hother hrest
  cases texts with
  | nil => exact absurd rfl hne
  | cons first texts =>
      obtain ⟨rfl, hothers⟩ := List.forall_mem_cons.mp htexts
      have hsame : texts.filter (fun other => !other == first) = [] := by
        apply List.filter_eq_nil_iff.mpr
        intro other hother
        simp [hothers other hother]
      rw [List.cons_append, List.eraseDups_cons, List.filter_append, hsame,
        List.nil_append, hkept]

theorem eraseDups_of_eq {texts : List Text} {text : Text} (hne : texts ≠ [])
    (htexts : ∀ other ∈ texts, other = text) : texts.eraseDups = [text] := by
  rw [← List.append_nil texts,
    eraseDups_append_of_eq hne htexts List.not_mem_nil, List.eraseDups_nil]

theorem head?_eraseDups (texts : List Text) :
    texts.eraseDups.head? = texts.head? := by
  cases texts with
  | nil => rfl
  | cons text texts =>
      rw [List.eraseDups_cons, List.head?_cons, List.head?_cons]

end FactStream.Text
