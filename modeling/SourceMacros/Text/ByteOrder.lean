/-! The order of texts by their bytes in UTF-8. -/

namespace SourceMacros.Text

def bytes (text : String) : List UInt8 := text.toUTF8.data.toList

def precedes (a b : String) : Bool := decide (bytes a ≤ bytes b)

theorem precedes_trans (a b c : String) (hab : precedes a b) (hbc : precedes b c) :
    precedes a c := by
  simp only [precedes, decide_eq_true_eq] at *
  exact List.le_trans hab hbc

theorem precedes_total (a b : String) : precedes a b || precedes b a := by
  simp only [precedes, Bool.or_eq_true, decide_eq_true_eq]
  exact List.le_total _ _

theorem eq_of_bytes_eq {a b : String} (h : bytes a = bytes b) : a = b := by
  apply String.toByteArray_inj.1
  ext1
  exact Array.toList_inj.1 h

theorem eq_of_precedes {a b : String} (hab : precedes a b) (hba : precedes b a) : a = b := by
  simp only [precedes, decide_eq_true_eq] at hab hba
  exact eq_of_bytes_eq (List.le_antisymm hab hba)

end SourceMacros.Text
