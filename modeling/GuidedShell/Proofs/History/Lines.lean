import GuidedShell.Proofs.History.Persistence
import GuidedShell.Proofs.Utf8.Ascii

/-! Each line of a history file is read for itself. Bytes that are no text, or that are changed, cost
no entry but that of their own line. -/
namespace GuidedShell.History

/-- The lines of a file: the bytes between its line feeds. -/
def fileLines (content : Bytes) : List Bytes := pieces (· == 0x0A) content

/-- The entry that the bytes of a line give, read on their own. A blank line gives none. -/
def entryOf? (line : Bytes) : Option String :=
  Option.guard (!·.isEmpty) (Text.trim (Text.ofBytesLossy line))

/-- The file may be cut into lines before it is read. -/
theorem parse_eq (content : Bytes) : parse content = (fileLines content).filterMap entryOf? := by
  have hpieces : pieces (· == '\n') (Text.ofBytesLossy content).toList =
      (fileLines content).map Utf8.decodeLossy := by
    unfold Text.ofBytesLossy
    rw [String.toList_ofList]
    exact Utf8.pieces_decodeLossy (by decide) content
  rw [parse_eq_fragments]
  unfold fragments
  rw [hpieces, List.map_map, ← List.filterMap_eq_filter, List.filterMap_map]
  refine List.filterMap_congr fun line _ => ?_
  unfold entryOf? Text.ofBytesLossy
  simp only [Function.comp_apply]

/-- Some bytes of one line of a file have become others. No line feed is among them. -/
inductive Damaged : Bytes → Bytes → Prop
  | intro (front back : Bytes) {old new : Bytes} (hold : 0x0A ∉ old) (hnew : 0x0A ∉ new) :
    Damaged (front ++ old ++ back) (front ++ new ++ back)

theorem fileLines_of_notMem {bytes : Bytes} (h : 0x0A ∉ bytes) : fileLines bytes = [bytes] := by
  refine pieces_of_forall fun b hb => ?_
  have hne : b ≠ 0x0A := fun heq => h (heq ▸ hb)
  simpa using hne

/-- The other lines stay, before and after. -/
theorem Damaged.fileLines {content content' : Bytes} (h : Damaged content content') :
    ∃ before line line' after, fileLines content = before ++ line :: after ∧
      History.fileLines content' = before ++ line' :: after := by
  obtain ⟨front, back, hold, hnew⟩ := h
  obtain ⟨before, first, hfront⟩ := exists_pieces_eq_concat (· == 0x0A) front
  obtain ⟨last, after, hback⟩ := List.exists_cons_of_ne_nil (pieces_ne_nil (· == 0x0A) back)
  have hline {bytes : Bytes} (h : 0x0A ∉ bytes) : History.fileLines (front ++ bytes ++ back) =
      before ++ (first ++ bytes ++ last) :: after :=
    pieces_append_of_last (pieces_append_of_last hfront (fileLines_of_notMem h)) hback
  exact ⟨before, _, _, after, hline hold, hline hnew⟩

/-- The history in a file is what its lines give, each read on its own, whatever bytes are in them.
So a file that differs in one line has the same entries of all the lines before and after. -/
theorem load_reads_lines {fs : FileSystem} {here : Location} {file : FilePath} {content : Bytes}
    (h : fs.read here file = .ok content) :
    load fs here file = (ofEntries ((fileLines content).filterMap entryOf?) (some file), none) ∧
      ∀ {fs' here' file' content'}, Damaged content content' →
        fs'.read here' file' = .ok content' →
        ∃ before line line' after, fileLines content = before ++ line :: after ∧
          fileLines content' = before ++ line' :: after ∧
          (load fs here file).1.entries =
            before.filterMap entryOf? ++ (entryOf? line).toList ++ after.filterMap entryOf? ∧
          (load fs' here' file').1.entries =
            before.filterMap entryOf? ++ (entryOf? line').toList ++ after.filterMap entryOf? := by
  have hload {fs : FileSystem} {here file content} (h : fs.read here file = .ok content) :
      load fs here file =
        (ofEntries ((fileLines content).filterMap entryOf?) (some file), none) := by
    rw [load_of_read h, parse_eq]
  refine ⟨hload h, fun hdamaged h' => ?_⟩
  obtain ⟨before, line, line', after, hlines, hlines'⟩ := hdamaged.fileLines
  have hentries (line : Bytes) : (before ++ line :: after).filterMap entryOf? =
      before.filterMap entryOf? ++ (entryOf? line).toList ++ after.filterMap entryOf? := by
    rw [List.filterMap_append, List.append_assoc]
    cases hentry : entryOf? line with
    | none => rw [List.filterMap_cons_none hentry]; rfl
    | some e => rw [List.filterMap_cons_some hentry]; rfl
  refine ⟨before, line, line', after, hlines, hlines', ?_, ?_⟩
  · rw [hload h, hlines, ← hentries line]
    rfl
  · rw [hload h', hlines', ← hentries line']
    rfl

/-- The second line ends inside a character, and then is nothing but broken bytes. -/
theorem load_reads_lines_broken :
    let front := Text.bytes "ls\n"
    let back := Text.bytes "\n pwd\r\n"
    let content := front ++ [0x63, 0xC3] ++ back
    let content' := front ++ [0xFF, 0xE2, 0x82] ++ back
    let file := Text.bytes "/h"
    let fs : FileSystem := ⟨[([Text.bytes "h"], .file 0o644 content)], []⟩
    let fs' : FileSystem := ⟨[([Text.bytes "h"], .file 0o644 content')], []⟩
    Damaged content content' ∧ fs.read [] file = .ok content ∧ fs'.read [] file = .ok content' ∧
      (load fs [] file).1.entries = ["ls", "c\uFFFD", "pwd"] ∧
      (load fs' [] file).1.entries = ["ls", "\uFFFD\uFFFD", "pwd"] := by
  intro front back content content' file fs fs'
  have hdamaged : Damaged content content' := .intro front back (by decide) (by decide)
  have hread : fs.read [] file = .ok content := by rfl
  have hread' : fs'.read [] file = .ok content' := by rfl
  refine ⟨hdamaged, hread, hread', ?_, ?_⟩
  · rw [(load_reads_lines hread).1]
    decide +kernel
  · rw [(load_reads_lines hread').1]
    decide +kernel

end GuidedShell.History
