import Phrasebook.Proofs.LineEnds
import Phrasebook.Proofs.Trimming
import Phrasebook.Source.Reading

/-! Line ends with carriage returns. A carriage return before a newline belongs to the end of the
line. So a text in which no others stand has the lines of the text with plain ends
(`Text.lines_plainEnds`), and the same is read from both, whether all lines end in this way or only
some (`Source.read_withReturns`). -/

namespace Phrasebook

namespace Text

theorem mem_of_mem_dropReturn {c : Char} {line : List Char} (h : c ∈ dropReturn line) :
    c ∈ line := by
  rw [dropReturn] at h
  split at h
  · exact List.mem_of_mem_dropLast h
  · exact h

/-- Where no carriage return is left over, a line end says the same with and without one. -/
theorem lines_plainEnds {s : List Char} (h : '\r' ∉ plainEnds s) :
    lines (plainEnds s) = lines s := by
  -- The induction is on the lines: the text is cut at its first newline.
  induction hlength : s.length using Nat.strong_induction_on generalizing s with
  | _ length ih =>
      cases hcut : cutAt '\n' s with
      | none => rw [plainEnds_of_not_mem (cutAt_eq_none_iff.1 hcut)]
      | some parts =>
          obtain ⟨line, rest⟩ := parts
          obtain ⟨rfl, hline⟩ := cutAt_eq_some_iff.1 hcut
          rw [plainEnds_append_newline hline] at h ⊢
          have hreturn : '\r' ∉ dropReturn line := fun hmem => h (List.mem_append_left _ hmem)
          have hrest : '\r' ∉ plainEnds rest :=
            fun hmem => h (List.mem_append_right _ (List.mem_cons_of_mem _ hmem))
          have hnewline : '\n' ∉ dropReturn line := fun hmem => hline (mem_of_mem_dropReturn hmem)
          have hlast : (dropReturn line).getLast? ≠ some '\r' :=
            fun hlast => hreturn (List.mem_of_getLast? hlast)
          have hshorter : rest.length < length := by
            rw [← hlength, List.length_append, List.length_cons]
            omega
          rw [lines_append_newline_of_not_mem hnewline, lines_append_newline_of_not_mem hline,
            dropReturn_of_ne hlast, ih _ hshorter hrest rfl]

/-- The text with a carriage return before each newline. -/
def withReturns : List Char → List Char
  | [] => []
  | c :: s => if c = '\n' then '\r' :: '\n' :: withReturns s else c :: withReturns s

theorem plainEnds_withReturns {s : List Char} (h : '\r' ∉ s) : plainEnds (withReturns s) = s := by
  induction s with
  | nil => rfl
  | cons c s ih =>
      obtain ⟨hc, hs⟩ := not_or.1 (mt List.mem_cons.2 h)
      rw [withReturns]
      split
      next hnewline => rw [plainEnds, ih hs, hnewline]
      next => rw [plainEnds_cons fun _ hreturn => absurd hreturn.symm hc, ih hs]

end Text

theorem Statement.scan_of_plainEnds {source text : String} (h : '\r' ∉ source.toList)
    (htext : Text.plainEnds text.toList = source.toList) : scan text = scan source := by
  have hlines : Text.lines text.toList = Text.lines source.toList := by
    rw [← htext] at h ⊢
    exact (Text.lines_plainEnds h).symm
  rw [scan, hlines, scan]

/-- It does not matter whether the lines of a text end in newlines or in carriage returns and
newlines, or some in this way and some in that. -/
theorem Source.read_withReturns {source : String} (h : '\r' ∉ source.toList) :
    (Statement.scan (String.ofList (Text.withReturns source.toList)) = Statement.scan source ∧
      ∀ options, read options (String.ofList (Text.withReturns source.toList)) =
        read options source) ∧
    ∀ text : String, Text.plainEnds text.toList = source.toList →
      Statement.scan text = Statement.scan source ∧
        ∀ options, read options text = read options source := by
  have hread : ∀ text : String, Text.plainEnds text.toList = source.toList →
      Statement.scan text = Statement.scan source ∧
        ∀ options, read options text = read options source := by
    intro text htext
    have hscan := Statement.scan_of_plainEnds h htext
    exact ⟨hscan, fun options => by rw [read, hscan, read]⟩
  refine ⟨hread _ ?_, hread⟩
  rw [String.toList_ofList, Text.plainEnds_withReturns h]

/-- The quoted value goes on after a backslash at the end of a line, and the last line has no end. -/
theorem Source.read_withReturns_quoted :
    Statement.scan "a = 'x\\\r\n\r\n\\''\r\nb" = Statement.scan "a = 'x\\\n\n\\''\nb" ∧
      read { strict := true } "a = 'x\\\r\n\n\\''\r\nb" =
        read { strict := true } "a = 'x\\\n\n\\''\nb" := by
  have hreturn : '\r' ∉ "a = 'x\\\n\n\\''\nb".toList := by decide
  have hall : String.ofList (Text.withReturns "a = 'x\\\n\n\\''\nb".toList) =
      "a = 'x\\\r\n\r\n\\''\r\nb" := by decide +kernel
  have hsome : Text.plainEnds "a = 'x\\\r\n\n\\''\r\nb".toList = "a = 'x\\\n\n\\''\nb".toList := by
    decide +kernel
  obtain ⟨⟨hscan, -⟩, hmixed⟩ := read_withReturns hreturn
  rw [hall] at hscan
  exact ⟨hscan, (hmixed _ hsome).2 _⟩

end Phrasebook
