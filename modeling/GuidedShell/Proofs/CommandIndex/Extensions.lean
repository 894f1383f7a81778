import GuidedShell.Proofs.CommandIndex.Scan
import GuidedShell.Proofs.Text.LowerAscii

/-! Programs that are told by their extension. The extension is looked for in the lower case of a
file name, and is taken from the name as it stands. Both find the same end, but a name that is nothing
else keeps it. -/
namespace GuidedShell

namespace FilePath

/-- The stem of a name ends before its last dot, unless the name begins with that dot. -/
theorem stem_append_dot {front tail : FileName} (hne : tail ≠ []) (hdot : dot ∉ tail) :
    stem (front ++ dot :: tail) = if front = [] then dot :: tail else front := by
  have hparent : front ++ dot :: tail ≠ parent := by
    intro heq
    cases front with
    | nil => exact hdot ((List.cons.inj heq).2 ▸ List.mem_cons_self)
    | cons b front =>
      have hlength := congrArg List.length heq
      have hpos := List.length_pos_iff.2 hne
      simp [parent] at hlength
      omega
  have htail : (front ++ dot :: tail).reverse.takeWhile (· != dot) = tail.reverse := by
    have hkept : ∀ b ∈ tail.reverse, (b != dot) = true := fun b hb =>
      bne_iff_ne.2 fun heq => hdot (heq ▸ List.mem_reverse.1 hb)
    rw [List.reverse_append, List.reverse_cons, List.append_assoc,
      List.takeWhile_append_of_pos hkept]
    simp
  unfold stem
  rw [if_neg (by simpa using hparent), htail]
  cases front with
  | nil => simp
  | cons b front =>
    have hlength : (b :: front ++ dot :: tail).length - tail.reverse.length - 1 =
        (b :: front).length := by
      simp only [List.length_append, List.length_cons, List.length_reverse]
      omega
    dsimp only
    rw [hlength, List.take_left, if_neg (List.cons_ne_nil b front), if_pos]
    simp only [List.length_append, List.length_cons, List.length_reverse]
    omega

theorem stem_bytes {front suffix : String} {rest : List Char}
    (hsuffix : suffix.toList = '.' :: rest) (hne : rest ≠ []) (hdot : '.' ∉ rest) :
    stem (Text.bytes (front ++ suffix)) = Text.bytes (if front = "" then suffix else front) := by
  have hbytes : Text.bytes suffix = dot :: Utf8.encode rest := by
    unfold Text.bytes
    rw [hsuffix, Utf8.encode_cons (by decide)]
    rfl
  have hrest : Utf8.encode rest ≠ [] := fun hnil => hne (Utf8.encode_inj hnil)
  have hdots : dot ∉ Utf8.encode rest := fun hmem =>
    hdot ((Utf8.mem_encode_iff (by decide)).1 hmem)
  rw [Text.bytes_append, hbytes, stem_append_dot hrest hdots, ← hbytes]
  by_cases hfront : front = ""
  · rw [if_pos hfront, if_pos (Text.bytes_eq_nil_iff.2 hfront)]
  · rw [if_neg hfront, if_neg (hfront ∘ Text.bytes_eq_nil_iff.1)]

end FilePath

namespace CommandIndex

open Utf8 (IsAscii)

/-- A dot, and then letters or digits of ASCII, at least one. -/
def IsExtension (e : String) : Prop :=
  ∃ tail, e.toList = '.' :: tail ∧ tail ≠ [] ∧ ∀ c ∈ tail, c.isAlphanum

/-- Upper and lower case being alike, it is one of the extensions. -/
def IsSpelling (extensions : List String) (suffix : String) : Prop :=
  ∃ e ∈ extensions, Text.lower suffix = Text.lower e

variable {w : World} {search : Bytes} {extensions : List String} {e n file stem suffix : String}

theorem IsExtension.isAscii (h : IsExtension e) : IsAscii e.toList := by
  obtain ⟨tail, htail, -, halnum⟩ := h
  rw [htail]
  exact List.forall_mem_cons.2 ⟨by decide, fun c hc => Chars.lt_of_isAlphanum (halnum c hc)⟩

theorem IsExtension.toList_lower (h : IsExtension e) :
    (Text.lower e).toList = e.toList.map Char.toLower := by
  rw [Text.toList_lower]
  exact Chars.lowerAfter_of_isAscii h.isAscii

theorem IsExtension.isAscii_lower (h : IsExtension e) : IsAscii (Text.lower e).toList := by
  intro c hc
  rw [h.toList_lower] at hc
  obtain ⟨d, hd, rfl⟩ := List.mem_map.1 hc
  exact Chars.toNat_toLower_lt (h.isAscii d hd)

theorem endsWith_lower_iff (h : IsExtension e) :
    Text.endsWith (Text.lower file) (Text.lower e) ↔
      ∃ stem suffix, file = stem ++ suffix ∧ Text.lower suffix = Text.lower e := by
  have hcut := Chars.suffix_lowerAfter_iff [] file.toList h.isAscii_lower
  unfold Text.endsWith
  rw [List.isSuffixOf_iff_suffix, Text.toList_lower file]
  refine Iff.trans hcut ?_
  constructor
  · rintro ⟨front, back, hfile, hback⟩
    refine ⟨.ofList front, .ofList back, ?_, ?_⟩
    · rw [← String.ofList_append, ← hfile, String.ofList_toList]
    · rw [← String.toList_inj, ← hback, Text.toList_lower, String.toList_ofList]
  · rintro ⟨stem, suffix, rfl, hsuffix⟩
    refine ⟨stem.toList, suffix.toList, String.toList_append, ?_⟩
    rw [← hsuffix, Text.toList_lower]

/-- What spells an extension has one dot, and has it at its start. -/
theorem IsExtension.exists_cons (h : IsExtension e) (hlower : Text.lower suffix = Text.lower e) :
    ∃ rest, suffix.toList = '.' :: rest ∧ rest ≠ [] ∧ '.' ∉ rest := by
  have hchars := h.toList_lower
  obtain ⟨tail, htail, hne, halnum⟩ := h
  have hlist : Chars.lowerAfter [] suffix.toList = '.' :: tail.map Char.toLower := by
    have hlist := congrArg String.toList hlower
    rwa [Text.toList_lower, hchars, htail] at hlist
  obtain ⟨rest, hsuffix, hrest⟩ :=
    Chars.exists_cons_of_lowerAfter (by decide) (by decide) hlist
  refine ⟨rest, hsuffix, ?_, fun hdot => ?_⟩
  · rintro rfl
    exact hne (List.map_eq_nil_iff.1 hrest.symm)
  · have hmem := Chars.toLower_mem_lowerAfter ['.'] (by decide) hdot
    rw [hrest] at hmem
    obtain ⟨c, hc, hcdot⟩ := List.mem_map.1 hmem
    have hlow : '.' ∈ Chars.lowerChar c := by
      rw [Chars.lowerChar_of_lt (Chars.lt_of_isAlphanum (halnum c hc)), hcdot]
      exact List.mem_cons_self
    obtain rfl := Chars.mem_lowerChar (by decide) (by decide) hlow
    exact absurd (halnum _ hc) (by decide)

theorem any_endsWith_iff (h : ∀ e ∈ extensions, IsExtension e) :
    (extensions.any fun e => Text.endsWith (Text.lower file) (Text.lower e)) ↔
      ∃ stem suffix, file = stem ++ suffix ∧ IsSpelling extensions suffix := by
  rw [List.any_eq_true]
  constructor
  · rintro ⟨e, he, hend⟩
    obtain ⟨stem, suffix, hfile, hlower⟩ := (endsWith_lower_iff (h e he)).1 hend
    exact ⟨stem, suffix, hfile, e, he, hlower⟩
  · rintro ⟨stem, suffix, hfile, e, he, hlower⟩
    exact ⟨e, he, (endsWith_lower_iff (h e he)).2 ⟨stem, suffix, hfile, hlower⟩⟩

/-- An end that spells an extension is what the stem of a name leaves out, if there is anything
before it. So no stem is empty. -/
theorem ofBytes?_stem (h : ∀ e ∈ extensions, IsExtension e)
    (hspelling : IsSpelling extensions suffix) :
    (Text.ofBytes? (FilePath.stem (Text.bytes (stem ++ suffix)))).filter (!·.isEmpty) =
      some (if stem = "" then suffix else stem) := by
  obtain ⟨e, he, hlower⟩ := hspelling
  obtain ⟨rest, hsuffix, hne, hdot⟩ := (h e he).exists_cons hlower
  have hnonempty : (if stem = "" then suffix else stem) ≠ "" := by
    split
    · rintro rfl
      cases hsuffix
    · assumption
  rw [FilePath.stem_bytes hsuffix hne hdot, Text.ofBytes?_eq_some_iff.2 rfl]
  exact Option.filter_eq_some_iff.2 ⟨rfl, by simpa using hnonempty⟩

theorem extendedCommand?_eq_some_iff (h : ∀ e ∈ extensions, IsExtension e) :
    extendedCommand? file extensions = some n ↔
      ∃ stem suffix, file = stem ++ suffix ∧ IsSpelling extensions suffix ∧
        Text.lower (if stem = "" then suffix else stem) = n := by
  unfold extendedCommand?
  constructor
  · intro hcommand
    split at hcommand
    · rename_i hany
      obtain ⟨stem, suffix, rfl, hspelling⟩ := (any_endsWith_iff h).1 hany
      rw [ofBytes?_stem h hspelling] at hcommand
      exact ⟨stem, suffix, rfl, hspelling, Option.some.inj hcommand⟩
    · cases hcommand
  · rintro ⟨stem, suffix, rfl, hspelling, rfl⟩
    rw [if_pos ((any_endsWith_iff h).2 ⟨stem, suffix, rfl, hspelling⟩), ofBytes?_stem h hspelling]
    rfl

/-- A directory of the search path that can be listed has an entry of this name. -/
def Lists (w : World) (search : Bytes) (file : String) : Prop :=
  ∃ dir ∈ FilePath.searchList search, ∃ entries,
    w.files.list w.here dir = .ok entries ∧ Text.bytes file ∈ entries

/-- An entry is named so, with an extension after it. -/
def ByStem (w : World) (search : Bytes) (extensions : List String) (n : String) : Prop :=
  ∃ stem suffix, Lists w search (stem ++ suffix) ∧ stem ≠ "" ∧ IsSpelling extensions suffix ∧
    Text.lower stem = n

/-- An entry is named like an extension. -/
def Bare (w : World) (search : Bytes) (extensions : List String) (n : String) : Prop :=
  ∃ file, Lists w search file ∧ IsSpelling extensions file ∧ Text.lower file = n

theorem mem_scan_extensions_iff (hne : extensions ≠ []) :
    n ∈ (scan w search extensions).names ↔
      ∃ file, Lists w search file ∧ extendedCommand? file extensions = some n := by
  have hempty : extensions.isEmpty = false := by simpa using hne
  have hcommand {dir : FilePath} {f : FileName} : command? w extensions dir f = some n ↔
      ∃ file, Text.bytes file = f ∧ extendedCommand? file extensions = some n := by
    unfold command?
    simp only [bind, Option.bind_eq_some_iff, Text.ofBytes?_eq_some_iff, hempty,
      Bool.false_eq_true, if_false]
  unfold scan
  rw [mem_insertAll]
  simp only [List.not_mem_nil, false_or, List.mem_flatMap]
  constructor
  · rintro ⟨dir, hdir, hmem⟩
    unfold commandsIn at hmem
    split at hmem
    · rename_i entries hlist
      obtain ⟨f, hf, hn⟩ := List.mem_filterMap.1 hmem
      obtain ⟨file, rfl, hfile⟩ := hcommand.1 hn
      exact ⟨file, ⟨dir, hdir, entries, hlist, hf⟩, hfile⟩
    · cases hmem
  · rintro ⟨file, ⟨dir, hdir, entries, hlist, hf⟩, hfile⟩
    refine ⟨dir, hdir, ?_⟩
    unfold commandsIn
    rw [hlist]
    exact List.mem_filterMap.2 ⟨_, hf, hcommand.2 ⟨file, rfl, hfile⟩⟩

/-- An index that is made with extensions has the stems of the entries that end in one, in lower
case, and whole the names that are nothing but an extension. So it has the stems alone just if every
such name is a stem of another entry. -/
theorem scan_has_stems (w : World) (search : Bytes) (hne : extensions ≠ [])
    (hext : ∀ e ∈ extensions, IsExtension e) :
    (∀ n, n ∈ (scan w search extensions).names ↔
      ByStem w search extensions n ∨ Bare w search extensions n) ∧
    ((∀ n, n ∈ (scan w search extensions).names ↔ ByStem w search extensions n) ↔
      ∀ n, Bare w search extensions n → ByStem w search extensions n) := by
  have hnames (n : String) : n ∈ (scan w search extensions).names ↔
      ByStem w search extensions n ∨ Bare w search extensions n := by
    rw [mem_scan_extensions_iff hne]
    constructor
    · rintro ⟨file, hlists, hcommand⟩
      obtain ⟨stem, suffix, rfl, hspelling, hlower⟩ := (extendedCommand?_eq_some_iff hext).1 hcommand
      by_cases hstem : stem = ""
      · subst hstem
        rw [String.empty_append] at hlists
        exact .inr ⟨suffix, hlists, hspelling, hlower⟩
      · rw [if_neg hstem] at hlower
        exact .inl ⟨stem, suffix, hlists, hstem, hspelling, hlower⟩
    · rintro (⟨stem, suffix, hlists, hstem, hspelling, hlower⟩ | ⟨file, hlists, hspelling, hlower⟩)
      · refine ⟨_, hlists, (extendedCommand?_eq_some_iff hext).2 ⟨stem, suffix, rfl, hspelling, ?_⟩⟩
        rwa [if_neg hstem]
      · exact ⟨file, hlists, (extendedCommand?_eq_some_iff hext).2
          ⟨"", file, String.empty_append.symm, hspelling, hlower⟩⟩
  refine ⟨hnames, fun hall n hbare => (hall n).1 ((hnames n).2 (.inr hbare)), fun hbare n => ?_⟩
  exact (hnames n).trans (or_iff_left_of_imp (hbare n))

/-- What is named like one of the extensions is another entry less its extension. -/
theorem scan_has_stems_bat :
    let w : World := ⟨⟨[([Text.bytes "bin"], .directory),
      ([Text.bytes "Note.exe", Text.bytes "bin"], .file 0o644 []),
      ([Text.bytes ".bat", Text.bytes "bin"], .file 0o644 []),
      ([Text.bytes ".Bat.exe", Text.bytes "bin"], .file 0o644 []),
      ([Text.bytes "readme.txt", Text.bytes "bin"], .file 0o755 [])], []⟩, [], [], none⟩
    let extensions := [".EXE", ".bat"]
    let bin := Text.bytes "/bin"
    extensions ≠ [] ∧ (∀ e ∈ extensions, IsExtension e) ∧
      (scan w bin extensions).names = [".bat", "note"] ∧
      ∀ n, n ∈ (scan w bin extensions).names ↔ ByStem w bin extensions n := by
  intro w extensions bin
  have hne : extensions ≠ [] := List.cons_ne_nil _ _
  have hext : ∀ e ∈ extensions, IsExtension e := by
    intro e he
    rcases List.mem_cons.1 he with rfl | he
    · exact ⟨"EXE".toList, rfl, by decide, List.all_eq_true.1 (by decide)⟩
    · obtain rfl := List.mem_singleton.1 he
      exact ⟨"bat".toList, rfl, by decide, List.all_eq_true.1 (by decide)⟩
  have hnames : (scan w bin extensions).names = [".bat", "note"] := by decide +kernel
  obtain ⟨hall, hstems⟩ := scan_has_stems w bin hne hext
  refine ⟨hne, hext, hnames, hstems.2 fun n hbare => ?_⟩
  have hlists (file : String) (hfile : Text.bytes file ∈ w.files.names [Text.bytes "bin"]) :
      Lists w bin file := ⟨bin, List.mem_cons_self, _, rfl, hfile⟩
  have hexe : IsSpelling extensions ".exe" := ⟨".EXE", List.mem_cons_self, by decide +kernel⟩
  have hmem := (hall n).2 (.inr hbare)
  rw [hnames] at hmem
  rcases List.mem_cons.1 hmem with rfl | hmem
  · exact ⟨".Bat", ".exe", hlists _ (by decide +kernel), by decide, hexe, by decide +kernel⟩
  · obtain rfl := List.mem_singleton.1 hmem
    exact ⟨"Note", ".exe", hlists _ (by decide +kernel), by decide, hexe, by decide +kernel⟩

/-- A file that is named like the extension is a command, and no entry has this stem. -/
theorem bare_extension_is_command :
    let w : World := ⟨⟨[([Text.bytes "bin"], .directory),
      ([Text.bytes ".exe", Text.bytes "bin"], .file 0o644 [])], []⟩, [], [], none⟩
    let bin := Text.bytes "/bin"
    IsExtension ".exe" ∧ (scan w bin [".exe"]).names = [".exe"] ∧
      ¬ByStem w bin [".exe"] ".exe" := by
  intro w bin
  have hext : IsExtension ".exe" := ⟨"exe".toList, rfl, by decide, List.all_eq_true.1 (by decide)⟩
  refine ⟨hext, by decide +kernel, ?_⟩
  rintro ⟨stem, suffix, ⟨dir, hdir, entries, hlist, hmem⟩, hstem, ⟨e, he, hlower⟩, -⟩
  have hone : w.files.list w.here bin = .ok [Text.bytes ".exe"] := rfl
  have hdirs : FilePath.searchList bin = [bin] := rfl
  rw [hdirs] at hdir
  obtain rfl := List.mem_singleton.1 hdir
  rw [hone] at hlist
  cases hlist
  obtain rfl := List.mem_singleton.1 he
  obtain ⟨rest, hsuffix, -, -⟩ := hext.exists_cons hlower
  have hname : stem.toList ++ '.' :: rest = ['.', 'e', 'x', 'e'] := by
    rw [← hsuffix, ← String.toList_append]
    exact Utf8.encode_inj (List.mem_singleton.1 hmem)
  cases hcs : stem.toList with
  | nil => exact hstem (String.toList_eq_nil_iff.1 hcs)
  | cons c cs =>
    rw [hcs] at hname
    obtain ⟨-, hrest⟩ := List.cons.inj hname
    have hdot : '.' ∈ ['e', 'x', 'e'] := hrest ▸ List.mem_append_right cs List.mem_cons_self
    exact absurd hdot (by decide)

end CommandIndex

end GuidedShell
