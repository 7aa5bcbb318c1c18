import Mathlib

/-!
# Text cut at a one-character separator

`String.splitOn` walks byte positions, which no evaluation or induction on characters opens.
For a separator of one character the cut is the cut of the character list
(`splitOn_singleton`): the pieces are the runs between separators, empty ones included, and
`List.splitOn` has the laws.  The proof follows Batteries' `String.splitToList` lemma: from a
position after the characters `l`, with the piece `m` begun, the rest `r` is cut as the
characters are.
-/

namespace Gatehouse.Text

/-- Splitting text at a one-character separator is splitting its characters at that character:
from a position after `l`, with the piece `m` begun, the rest `r` is cut as the characters
are. -/
theorem splitOnAux_singleton (sep : Char) (l m r : List Char) (acc : List String) :
    String.splitOnAux (String.ofList (l ++ m ++ r)) (String.singleton sep) ⟨String.utf8Len l⟩
        ⟨String.utf8Len l + String.utf8Len m⟩ 0 acc =
      acc.reverse ++ (List.splitOnPPrepend (· == sep) r m.reverse).map String.ofList := by
  unfold String.splitOnAux
  simp only [List.append_assoc, String.atEnd_iff, String.rawEndPos_ofList, String.utf8Len_append,
    String.Pos.Raw.mk_le_mk, Nat.add_le_add_iff_left,
    (by omega : String.utf8Len m + String.utf8Len r ≤ String.utf8Len m ↔ String.utf8Len r = 0),
    String.utf8Len_eq_zero]
  split
  · next empty =>
    subst empty
    simpa using String.extract_of_valid l m []
  · obtain ⟨c, r, rfl⟩ := List.exists_cons_of_ne_nil ‹_›
    have atChar : String.Pos.Raw.get (String.ofList (l ++ (m ++ c :: r)))
        ⟨String.utf8Len l + String.utf8Len m⟩ = c := by
      simpa [-String.ofList_append] using String.get_of_valid (l ++ m) (c :: r)
    have nextChar : String.Pos.Raw.next (String.ofList (l ++ (m ++ c :: r)))
        ⟨String.utf8Len l + String.utf8Len m⟩ =
          ⟨String.utf8Len l + String.utf8Len m + c.utf8Size⟩ := by
      simpa [-String.ofList_append] using String.next_of_valid (l ++ m) c r
    have piece : String.Pos.Raw.extract (String.ofList (l ++ (m ++ c :: r))) ⟨String.utf8Len l⟩
        ⟨String.utf8Len l + String.utf8Len m⟩ = String.ofList m := by
      simpa [-String.ofList_append] using String.extract_of_valid l m (c :: r)
    have sepChar : String.Pos.Raw.get (String.singleton sep) 0 = sep := by
      rw [String.singleton_eq_ofList]
      exact String.get_of_valid [] [sep]
    have sepNext : String.Pos.Raw.next (String.singleton sep) 0 = ⟨sep.utf8Size⟩ := by
      rw [String.singleton_eq_ofList]
      exact (String.next_of_valid [] sep []).trans (by simp)
    have sepEnd : (String.singleton sep).rawEndPos = ⟨sep.utf8Size⟩ := by
      rw [String.singleton_eq_ofList, String.rawEndPos_ofList]
      simp
    rw [atChar, nextChar, sepChar, sepNext, sepEnd]
    by_cases isSep : c = sep
    · subst isSep
      have back : (⟨String.utf8Len l + String.utf8Len m + c.utf8Size⟩ : String.Pos.Raw).unoffsetBy
          ⟨c.utf8Size⟩ = ⟨String.utf8Len l + String.utf8Len m⟩ := by
        simp [String.Pos.Raw.unoffsetBy]
      simp only [beq_self_eq_true, if_true, back, piece, String.Pos.Raw.mk_le_mk, Nat.le_refl]
      rw [@List.splitOnPPrepend_cons_pos _ (· == c) c r m.reverse (beq_self_eq_true c)]
      have later := splitOnAux_singleton c (l ++ m ++ [c]) [] r (String.ofList m :: acc)
      simpa [-String.ofList_append, Nat.add_assoc] using later
    · have notSep : (c == sep) = false := by simpa using isSep
      have stay : (⟨String.utf8Len l + String.utf8Len m⟩ : String.Pos.Raw).unoffsetBy 0 =
          ⟨String.utf8Len l + String.utf8Len m⟩ := rfl
      simp only [notSep, Bool.false_eq_true, if_false, stay, nextChar]
      rw [@List.splitOnPPrepend_cons_neg _ (· == sep) c r m.reverse notSep]
      have later := splitOnAux_singleton sep l (m ++ [c]) r acc
      simpa [-String.ofList_append, Nat.add_assoc] using later

/-- Text cut at a one-character separator is its characters cut there. -/
theorem splitOn_singleton (s : String) (sep : Char) :
    s.splitOn (String.singleton sep) = (s.toList.splitOn sep).map String.ofList := by
  have whole := splitOnAux_singleton sep [] [] s.toList []
  simp only [List.append_nil, List.nil_append, String.ofList_toList, String.utf8Len_nil,
    Nat.add_zero, List.reverse_nil, List.splitOnPPrepend_nil_right] at whole
  have nonempty : (String.singleton sep == "") = false :=
    beq_eq_false_iff_ne.mpr fun empty => by simpa using congrArg String.length empty
  simp only [String.splitOn, nonempty, Bool.false_eq_true, if_false]
  exact whole

end Gatehouse.Text
