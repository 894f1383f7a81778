import GuidedShell.History.File
import GuidedShell.Proofs.Text.Lines
import GuidedShell.Proofs.Utf8.RoundTrip

/-! The file of a history gives back the entries that were written to it. -/
namespace GuidedShell.History

/-- An entry that a file keeps as it is: trimmed, not blank, and on one line. -/
structure Tidy (e : String) : Prop where
  trimmed : Text.trim e = e
  nonempty : e ≠ ""
  oneLine : '\n' ∉ e.toList

theorem tidy_trim {line : String} (hline : '\n' ∉ line.toList) (hne : Text.trim line ≠ "") :
    Tidy (Text.trim line) where
  trimmed := Text.trim_trim line
  nonempty := hne
  oneLine hmem := by
    rw [Text.toList_trim] at hmem
    exact hline ((Chars.trim_sublist line.toList).subset hmem)

/-- Whatever is in a file, what is read from it is tidy. -/
theorem tidy_of_mem_parse {content : Bytes} {e : String} (h : e ∈ parse content) : Tidy e := by
  obtain ⟨hmem, hne⟩ := List.mem_filter.1 h
  obtain ⟨line, hline, rfl⟩ := List.mem_map.1 hmem
  obtain ⟨cs, hcs, rfl⟩ := List.mem_map.1 hline
  have hfeed := Chars.lineFeed_not_mem_of_mem_lines hcs
  refine tidy_trim ?_ (by simpa using hne)
  rwa [String.toList_ofList]

theorem render_eq (entries : List String) :
    render entries = Utf8.encode ((entries.map String.toList).flatMap (· ++ ['\n'])) := by
  induction entries with
  | nil => rfl
  | cons e es ih =>
    have hcons : render (e :: es) = Text.bytes e ++ Text.bytes "\n" ++ render es := rfl
    rw [hcons, ih, List.map_cons, List.flatMap_cons, Utf8.encode_append, Utf8.encode_append]
    rfl

/-- What a file makes of an entry: the lines in it, trimmed, without the blank ones. -/
def fragments (e : String) : List String :=
  ((pieces (· == '\n') e.toList).map fun p => Text.trim (.ofList p)).filter (!·.isEmpty)

/-- A carriage return at the end of a line is trimmed like other blanks, and an empty line at the end
of a file gives nothing anyway. -/
theorem parse_eq_fragments (content : Bytes) :
    parse content = fragments (Text.ofBytesLossy content) := by
  have htrim (p : List Char) : Text.trim (.ofList (Chars.dropReturn p)) = Text.trim (.ofList p) := by
    unfold Text.trim
    rw [String.toList_ofList, String.toList_ofList, Chars.trim_dropReturn]
  have hempty : (!(Text.trim (.ofList [])).isEmpty) = false := by decide
  unfold parse fragments Text.lines Chars.lines
  generalize (Text.ofBytesLossy content).toList = cs
  obtain ⟨front, last, hpieces⟩ := exists_pieces_eq_concat (· == '\n') cs
  dsimp only
  rw [hpieces, List.dropLast_concat, List.getLast?_concat]
  simp only [List.map_append, List.map_map, List.filter_append]
  refine congrArg₂ (· ++ ·) (congrArg _ (List.map_congr_left fun p _ => ?_)) ?_
  · exact htrim p
  · cases last with
    | nil => simp [hempty]
    | cons c cs => rfl

/-- Reading gives back what a file makes of the entries that were written, in order. -/
theorem parse_render_eq (entries : List String) :
    parse (render entries) = entries.flatMap fragments := by
  have hempty : (!(Text.trim (.ofList [])).isEmpty) = false := by decide
  rw [parse_eq_fragments]
  unfold fragments Text.ofBytesLossy
  rw [render_eq, Utf8.decodeLossy_encode, String.toList_ofList, pieces_flatMap (by rfl),
    List.map_append, List.filter_append, List.flatMap_map, List.map_flatMap, List.filter_flatMap]
  simp [hempty]

theorem fragments_of_tidy {e : String} (h : Tidy e) : fragments e = [e] := by
  have hone : pieces (· == '\n') e.toList = [e.toList] := by
    refine pieces_of_forall fun c hc => ?_
    have hne : c ≠ '\n' := fun heq => h.oneLine (heq ▸ hc)
    simpa using hne
  unfold fragments
  rw [hone, List.map_singleton, String.ofList_toList, h.trimmed]
  simp [h.nonempty]

/-- Reading gives back the tidy entries that were written, in order. -/
theorem parse_render {entries : List String} (h : ∀ e ∈ entries, Tidy e) :
    parse (render entries) = entries := by
  rw [parse_render_eq]
  calc entries.flatMap fragments = entries.flatMap fun e => [e] :=
        List.flatMap_congr fun e he => fragments_of_tidy (h e he)
    _ = entries := List.flatMap_singleton' entries

/-- Entries that are trimmed and not blank come back as they were just if none has a line feed. -/
theorem flatMap_fragments_eq_iff {entries : List String}
    (h : ∀ e ∈ entries, Text.trim e = e ∧ e ≠ "") :
    entries.flatMap fragments = entries ↔ ∀ e ∈ entries, '\n' ∉ e.toList := by
  rw [← parse_render_eq]
  constructor
  · intro hback e he
    rw [← hback] at he
    exact (tidy_of_mem_parse he).oneLine
  · intro hone
    exact parse_render fun e he => ⟨(h e he).1, (h e he).2, hone e he⟩

theorem load_of_read {fs : FileSystem} {here : Location} {file : FilePath} {content : Bytes}
    (h : fs.read here file = .ok content) :
    load fs here file = (ofEntries (parse content) (some file), none) := by
  simp only [load, h]

theorem load_of_read_render {fs : FileSystem} {here : Location} {file : FilePath}
    {entries : List String} (htidy : ∀ e ∈ entries, Tidy e)
    (h : fs.read here file = .ok (render entries)) :
    load fs here file = (ofEntries entries (some file), none) := by
  rw [load_of_read h, parse_render htidy]

theorem file?_load (fs : FileSystem) (here : Location) (file : FilePath) :
    (load fs here file).1.file? = some file := by
  unfold load
  split <;> rfl

theorem tidy_of_mem_load {fs : FileSystem} {here : Location} {file : FilePath} {e : String}
    (h : e ∈ (load fs here file).1.entries) : Tidy e := by
  unfold load at h
  split at h
  · rename_i content _
    have hmem : e ∈ parse content := h
    exact tidy_of_mem_parse hmem
  · simp [ofEntries] at h
  · simp [ofEntries] at h

end GuidedShell.History
