import Observation.Input
import Observation.Proofs.Except
import Observation.Text.Blank

/-!
# Lines of a text

A text is cut at its newlines.  A carriage return before a newline goes with it, and after the last
newline there is one more line, which may be empty.

* `Text.lines` - the lines of a text, from the pieces between newlines.
* `linesOf_append_blank` - files are read in these lines, but for an empty one at the end.
* `linesOf_join` - a text put together from lines is read in these lines.
* `FileContent.text_toUTF8`, `InputLines.ofBytes_toUTF8` - the file of a text.
-/

namespace Observation

namespace Text

/-- A line without a carriage return at its end, if it has one there. -/
def dropCarriage (line : List Char) : List Char :=
  if line.getLast? = some '\r' then line.dropLast else line

/-- The lines of a text: the pieces between newlines, all but the last one without a carriage return
at the end. -/
def lines (s : String) : List String :=
  let pieces := s.toList.splitOn '\n'
  (pieces.dropLast.map dropCarriage ++ pieces.getLast?.toList).map String.ofList

theorem dropCarriage_of_notMem {line : List Char} (h : '\r' ∉ line) : dropCarriage line = line := by
  unfold dropCarriage
  rw [if_neg]
  intro hlast
  exact h (List.mem_of_getLast? hlast)

end Text

/-! ## Cutting -/

theorem rawLines_newline (cs : List Char) :
    rawLines '\n' ('\n' :: cs) = ['\n'] :: rawLines '\n' cs := rfl

theorem rawLines_cons_of_nil {c : Char} {cs : List Char} (hc : c ≠ '\n')
    (h : rawLines '\n' cs = []) : rawLines '\n' (c :: cs) = [[c]] := by
  unfold rawLines at h ⊢
  rw [List.foldr_cons, h, if_neg hc]

theorem rawLines_cons_of_cons {c : Char} {cs line : List Char} {lines : List (List Char)}
    (hc : c ≠ '\n') (h : rawLines '\n' cs = line :: lines) :
    rawLines '\n' (c :: cs) = (c :: line) :: lines := by
  unfold rawLines at h ⊢
  rw [List.foldr_cons, h, if_neg hc]

/-- Each piece is read with its newline, and the one after the last newline only if it is not
empty. -/
theorem exists_splitOn (cs : List Char) :
    ∃ pieces last, cs.splitOn '\n' = pieces ++ [last] ∧ '\n' ∉ last ∧
      rawLines '\n' cs = pieces.map (· ++ ['\n']) ++ if last = [] then [] else [last] := by
  induction cs with
  | nil => exact ⟨[], [], List.splitOn_nil _, List.not_mem_nil, rfl⟩
  | cons c cs ih =>
    obtain ⟨pieces, last, hsplit, hlast, hraw⟩ := ih
    rw [List.splitOn_cons_eq_if_modifyHead, hsplit]
    by_cases hc : c = '\n'
    · subst hc
      rw [rawLines_newline, hraw]
      exact ⟨[] :: pieces, last, rfl, hlast, rfl⟩
    · rw [if_neg (by simpa using hc)]
      cases pieces with
      | nil =>
        refine ⟨[], c :: last, rfl, ?_, ?_⟩
        · simpa using ⟨Ne.symm hc, hlast⟩
        · by_cases hnil : last = []
          · subst hnil
            exact rawLines_cons_of_nil hc hraw
          · rw [if_neg hnil] at hraw
            exact rawLines_cons_of_cons hc hraw
      | cons piece pieces =>
        exact ⟨(c :: piece) :: pieces, last, rfl, hlast, rawLines_cons_of_cons hc hraw⟩

theorem chomp_newline (line : List Char) :
    chomp '\n' '\r' (line ++ ['\n']) = Text.dropCarriage line := by
  unfold chomp Text.dropCarriage
  rw [List.getLast?_concat, if_pos rfl, List.dropLast_concat]

theorem chomp_of_notMem {line : List Char} (h : '\n' ∉ line) : chomp '\n' '\r' line = line := by
  unfold chomp
  rw [if_neg]
  intro hlast
  exact h (List.mem_of_getLast? hlast)

/-- Files are read in the lines of their text, but for an empty line at the end. -/
theorem linesOf_append_blank (s : String) :
    ∃ rest, Text.lines s = linesOf s ++ rest ∧ ∀ line ∈ rest, Text.isBlankText line = true := by
  obtain ⟨pieces, last, hsplit, hlast, hraw⟩ := exists_splitOn s.toList
  have hlines : Text.lines s = (pieces.map Text.dropCarriage ++ [last]).map String.ofList := by
    simp only [Text.lines, hsplit, List.dropLast_concat, List.getLast?_concat, Option.toList_some]
  have hchomp :
      (pieces.map (· ++ ['\n'])).map (chomp '\n' '\r') = pieces.map Text.dropCarriage := by
    rw [List.map_map]
    exact List.map_congr_left fun line _ => chomp_newline line
  have hread : linesOf s = (pieces.map Text.dropCarriage ++
      (if last = [] then [] else [last]).map (chomp '\n' '\r')).map String.ofList := by
    unfold linesOf
    rw [hraw, ← hchomp, ← List.map_append, List.map_map]
    rfl
  rw [hlines, hread]
  by_cases hnil : last = []
  · subst hnil
    refine ⟨[String.ofList []], by simp, ?_⟩
    intro line hline
    rw [List.mem_singleton.1 hline]
    rfl
  · refine ⟨[], ?_, fun line hline => nomatch hline⟩
    rw [if_neg hnil, List.append_nil, List.map_singleton, chomp_of_notMem hlast]

/-! ## Putting together -/

theorem rawLines_append_newline {line : List Char} (h : '\n' ∉ line) (rest : List Char) :
    rawLines '\n' (line ++ '\n' :: rest) = (line ++ ['\n']) :: rawLines '\n' rest := by
  induction line with
  | nil => rfl
  | cons c line ih =>
    rw [List.mem_cons, not_or] at h
    exact rawLines_cons_of_cons (Ne.symm h.1) (ih h.2)

theorem toList_join_cons (line : String) (lines : List String) :
    (String.join ((line :: lines).map (· ++ "\n"))).toList =
      line.toList ++ '\n' :: (String.join (lines.map (· ++ "\n"))).toList := by
  simp [String.toList_join]

/-- A text put together from lines is read in these lines. -/
theorem linesOf_join {lines : List String}
    (h : ∀ line ∈ lines, '\n' ∉ line.toList ∧ '\r' ∉ line.toList) :
    linesOf (String.join (lines.map (· ++ "\n"))) = lines := by
  induction lines with
  | nil => rfl
  | cons line lines ih =>
    obtain ⟨hline, hlines⟩ := List.forall_mem_cons.1 h
    have hih := ih hlines
    unfold linesOf at hih ⊢
    rw [toList_join_cons, rawLines_append_newline hline.1, List.map_cons, hih, chomp_newline,
      Text.dropCarriage_of_notMem hline.2, String.ofList_toList]

theorem count_newline_join {lines : List String} (h : ∀ line ∈ lines, '\n' ∉ line.toList) :
    (String.join (lines.map (· ++ "\n"))).toList.count '\n' = lines.length := by
  induction lines with
  | nil => rfl
  | cons line lines ih =>
    obtain ⟨hline, hlines⟩ := List.forall_mem_cons.1 h
    rw [toList_join_cons, List.count_append, List.count_cons_self,
      List.count_eq_zero_of_not_mem hline, ih hlines, List.length_cons, Nat.zero_add]

/-! ## Files -/

theorem fromUTF8?_toUTF8 (s : String) : String.fromUTF8? s.toUTF8 = some s := by
  unfold String.fromUTF8?
  exact dif_pos s.isValidUTF8

theorem FileContent.text_toUTF8 (s : String) : FileContent.text (.ok s.toUTF8) = .ok s := by
  unfold text
  rw [Except.bind_eq_ok_iff]
  refine ⟨s.toUTF8, rfl, ?_⟩
  rw [fromUTF8?_toUTF8]
  rfl

theorem InputLines.ofBytes_toUTF8 (s : String) : ofBytes s.toUTF8 = ofText s := by
  unfold ofBytes
  rw [fromUTF8?_toUTF8]

end Observation
