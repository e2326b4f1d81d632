import FactStream.Percentage.Table
import FactStream.Proofs.Fact
import FactStream.Proofs.Text.Numeral

/-!
# Percentages have no blanks in them

Whatever number is written, its text is made up of digits, a sign, a point and
letters.
-/

namespace FactStream

/-- No character of the text is blank. -/
def Text.IsVisible (text : Text) : Prop :=
  ∀ character ∈ text, isBlank character = false

instance Text.isVisibleDecidable (text : Text) : Decidable text.IsVisible :=
  List.decidableBAll (fun character => isBlank character = false) text

theorem Text.IsVisible.append {front rest : Text} (hfront : front.IsVisible)
    (hrest : rest.IsVisible) : IsVisible (front ++ rest) :=
  List.forall_mem_append.mpr ⟨hfront, hrest⟩

theorem Text.IsVisible.cons {first : Char} {rest : Text}
    (hfirst : isBlank first = false) (hrest : rest.IsVisible) :
    IsVisible (first :: rest) :=
  List.forall_mem_cons.mpr ⟨hfirst, hrest⟩

theorem Text.IsVisible.lineFeed_not_mem {text : Text}
    (hvisible : text.IsVisible) : '\n' ∉ text :=
  fun hmem => Bool.noConfusion (hvisible '\n' hmem)

theorem Numeral.isVisible_ofNat (value : Nat) : (ofNat value).IsVisible :=
  fun _ hmem => isBlank_of_isDigit (isDigit_of_mem_ofNat hmem)

namespace Percentage

theorem isVisible_padded (width value : Nat) :
    (padded width value).IsVisible := by
  rw [padded]
  apply Text.IsVisible.append _ (Numeral.isVisible_ofNat value)
  intro character hmem
  rw [List.eq_of_mem_replicate hmem]
  rfl

theorem isVisible_decimalText (decimal : Binary64.Decimal) :
    (decimalText decimal).IsVisible :=
  (Numeral.isVisible_ofNat _).append (.cons rfl (isVisible_padded _ _))

theorem isVisible_signText (negative : Bool) :
    (signText negative).IsVisible := by
  cases negative <;> decide

theorem isVisible_magnitudeText (mantissa : Nat) (exponent : Int) :
    (magnitudeText mantissa exponent).IsVisible := by
  rw [magnitudeText]
  split
  · exact (Numeral.isVisible_ofNat _).append (by decide)
  · exact isVisible_decimalText _

theorem isVisible_numberText (number : Binary64) :
    (numberText number).IsVisible := by
  cases number with
  | notANumber => exact (by decide : Text.IsVisible "NaN".toList)
  | infinite negative => exact (isVisible_signText negative).append (by decide)
  | finite negative mantissa exponent =>
      exact (isVisible_signText negative).append
        (isVisible_magnitudeText mantissa exponent)

theorem isVisible_text (bits : UInt64) : (text bits).IsVisible :=
  isVisible_numberText _

end Percentage

theorem Share.lineFeed_not_mem_fact {share : Share}
    (hkey : '\n' ∉ share.detection) : '\n' ∉ share.fact.text := by
  apply Fact.lineFeed_not_mem_text _ hkey
  exact ((Percentage.isVisible_text _).append
    (.cons rfl (List.forall_mem_nil _))).lineFeed_not_mem

end FactStream
