import Mathlib.Algebra.Ring.Nat

/-!
# Lines of a text

A text is split into lines at its newlines, so that a text that ends in one has an empty
line last. Lines without a newline in them are read back from the text they make
(`splitLines_unlines_append`), whatever lines follow; a newline inside a line shows as one
newline too many (`count_unlines_eq_length_iff`).
-/

namespace ProxyHeader

/-- The lines of a text. -/
def splitLines (text : String) : List String :=
  (text.toList.splitOn '\n').map String.ofList

/-- The text that lines make, each with a newline behind it. -/
def unlines (ls : List String) : String :=
  String.join (ls.map (· ++ "\n"))

theorem newline_not_mem_append {s t : String} (hs : '\n' ∉ s.toList) (ht : '\n' ∉ t.toList) :
    '\n' ∉ (s ++ t).toList := by
  rw [String.toList_append, List.mem_append, not_or]
  exact ⟨hs, ht⟩

theorem splitLines_of_not_mem {s : String} (hs : '\n' ∉ s.toList) : splitLines s = [s] := by
  rw [splitLines, List.splitOn_eq_singleton hs, List.map_singleton, String.ofList_toList]

/-- A text has one line more than newlines. -/
theorem length_splitLines (s : String) :
    (splitLines s).length = s.toList.count '\n' + 1 := by
  rw [splitLines, List.length_map]
  induction s.toList with
  | nil => rfl
  | cons c cs ih =>
    rw [List.splitOn_cons_eq_if_modifyHead, List.count_cons]
    split
    · rw [List.length_cons, ih]
    · rw [List.length_modifyHead, ih, Nat.add_zero]

/-- What stands in front of the first newline is the first line. -/
theorem splitLines_append {s : String} (hs : '\n' ∉ s.toList) (t : String) :
    splitLines (s ++ "\n" ++ t) = s :: splitLines t := by
  have hjoin : (s ++ "\n" ++ t).toList = s.toList ++ '\n' :: t.toList := by
    rw [String.toList_append, String.toList_append, List.append_assoc]
    rfl
  rw [splitLines, hjoin, List.splitOn_append_cons_self_of_not_mem hs, List.map_cons,
    String.ofList_toList, splitLines]

/-- A text and its first line open alike, as far as there is no newline. -/
theorem exists_splitLines_eq_cons {w rest : List Char} (hw : '\n' ∉ w) {s : String}
    (hs : s.toList = w ++ rest) : ∃ line ls, splitLines s = line :: ls ∧ w <+: line.toList := by
  have hsplit : ∃ line ls, (w ++ rest).splitOn '\n' = (w ++ line) :: ls := by
    clear hs
    induction w with
    | nil => exact List.exists_cons_of_ne_nil (List.splitOn_ne_nil '\n' rest)
    | cons c w ih =>
      rw [List.mem_cons, not_or] at hw
      obtain ⟨line, ls, h⟩ := ih hw.2
      have hc : (c == '\n') = false := beq_eq_false_iff_ne.mpr (Ne.symm hw.1)
      refine ⟨line, ls, ?_⟩
      rw [List.cons_append, List.splitOn_cons_eq_if_modifyHead, hc, h]
      rfl
  obtain ⟨line, ls, h⟩ := hsplit
  refine ⟨String.ofList (w ++ line), ls.map String.ofList, ?_, ?_⟩
  · rw [splitLines, hs, h, List.map_cons]
  · rw [String.toList_ofList]
    exact List.prefix_append w line

theorem unlines_cons (l : String) (ls : List String) :
    unlines (l :: ls) = l ++ "\n" ++ unlines ls := by
  rw [unlines, List.map_cons, String.join_cons, unlines]

theorem unlines_append (ls ms : List String) : unlines (ls ++ ms) = unlines ls ++ unlines ms := by
  induction ls with
  | nil => exact (String.empty_append).symm
  | cons l ls ih =>
    rw [List.cons_append, unlines_cons, unlines_cons, ih, ← String.append_assoc]

/-- Lines are read back, whatever lines follow them. -/
theorem splitLines_unlines_append {ls : List String} (h : ∀ l ∈ ls, '\n' ∉ l.toList)
    (ms : List String) : splitLines (unlines (ls ++ ms)) = ls ++ splitLines (unlines ms) := by
  induction ls with
  | nil => rfl
  | cons l ls ih =>
    rw [List.cons_append, unlines_cons, splitLines_append (h l List.mem_cons_self),
      ih fun m hm => h m (List.mem_cons_of_mem l hm), List.cons_append]

/-- A newline ends each line, and the others stand inside lines. -/
theorem count_unlines (ls : List String) : (unlines ls).toList.count '\n' =
    ls.length + (ls.map fun l => l.toList.count '\n').sum := by
  induction ls with
  | nil => rfl
  | cons l ls ih =>
    have hnewline : "\n".toList.count '\n' = 1 := rfl
    rw [unlines_cons, String.toList_append, String.toList_append, List.count_append,
      List.count_append, ih, hnewline, List.length_cons, List.map_cons, List.sum_cons]
    omega

/-- A text has a newline for each of its lines exactly if there is none inside a line. -/
theorem count_unlines_eq_length_iff (ls : List String) :
    (unlines ls).toList.count '\n' = ls.length ↔ ∀ l ∈ ls, '\n' ∉ l.toList := by
  rw [count_unlines, Nat.add_eq_left, List.sum_eq_zero_iff_forall_eq_nat]
  simp only [List.mem_map, forall_exists_index, and_imp, forall_apply_eq_imp_iff₂,
    List.count_eq_zero]

/-- Words joined by a character. -/
theorem intercalate_singleton_cons (c : Char) (w : List Char) (ws : List (List Char)) :
    [c].intercalate (w :: ws) = w ++ ws.flatMap (c :: ·) := by
  induction ws generalizing w with
  | nil => rw [List.intercalate_singleton, List.flatMap_nil, List.append_nil]
  | cons w' ws ih =>
    rw [List.intercalate_cons_cons, ih, List.flatMap_cons, List.append_assoc]
    rfl

end ProxyHeader
