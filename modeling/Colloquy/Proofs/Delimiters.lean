import Colloquy.Fixture.Basic
import Colloquy.Proofs.Trimming

/-!
# Where fixture files are cut

`Written` is a fixture file by its parts: byte order marks, the opening delimiter, the complete
lines of the table, the closing delimiter and the block. A file with at least one line of table is
cut exactly at its two delimiters, whatever the block holds. One without a line of table is not: the
closing delimiter is looked for behind a line break, and the only one before it belongs to the
opening delimiter.

How TOML is read is left open but for two documents: the empty one, and one that starts with the
line that a delimiter is. The reader of the project does as it should with both.
-/

namespace Colloquy.Fixture

open Text Toml

/-! ### Files by their parts -/

/-- A line break, with a carriage return or without one. -/
inductive LineBreak where
  | feed
  | returnFeed
  deriving DecidableEq, Repr

/-- The characters of a line break. -/
def LineBreak.chars : LineBreak → List Char
  | .feed => ['\n']
  | .returnFeed => ['\r', '\n']

/-- A complete line of a table. It does not start like a delimiter. -/
structure TableLine where
  text : List Char
  ending : LineBreak
  oneLine : '\n' ∉ text
  noDelimiter : ¬ delimiter <+: text

/-- The characters of a line and of the break that ends it. -/
def TableLine.chars (line : TableLine) : List Char := line.text ++ line.ending.chars

/-- A fixture file by its parts. -/
structure Written where
  /-- How many byte order marks the file starts with. -/
  marks : Nat
  /-- The break after the opening delimiter. -/
  opening : LineBreak
  lines : List TableLine
  /-- The break after the closing delimiter. -/
  closing : LineBreak
  block : List Char

namespace Written

/-- The lines of the table with their breaks. -/
def table (file : Written) : List Char := file.lines.flatMap TableLine.chars

/-- The table without its last line feed and the carriage returns before that. -/
def front (file : Written) : List Char := dropEndWhile (· == '\r') file.table.dropLast

/-- The text of the file. -/
def content (file : Written) : String :=
  String.ofList (List.replicate file.marks '\uFEFF' ++ (delimiter ++ (file.opening.chars ++
    (file.table ++ (delimiter ++ (file.closing.chars ++ file.block))))))

end Written

/-! ### Cutting -/

section

variable {cs body rest before after : List Char}

/-- A line break is removed whole. -/
theorem dropBreak_chars (ending : LineBreak) (cs : List Char) :
    dropBreak (ending.chars ++ cs) = cs := by
  cases ending <;> rfl

/-- The first line is passed over if no delimiter comes after it. -/
theorem cutAtDelimiter?_line (hbody : '\n' ∉ body) (hrest : ¬ delimiter <+: rest) :
    cutAtDelimiter? (body ++ '\n' :: rest) =
      (cutAtDelimiter? rest).map fun (before, after) ↦ (body ++ '\n' :: before, after) := by
  induction body with
  | nil =>
    rw [List.nil_append, cutAtDelimiter?, if_neg (by simp [hrest])]
    rfl
  | cons c body ih =>
    rw [List.mem_cons, not_or] at hbody
    have hc : c ≠ '\n' := fun h ↦ hbody.1 h.symm
    rw [List.cons_append, cutAtDelimiter?, if_neg (fun h ↦ hc h.1), ih hbody.2, Option.map_map]
    rfl

/-- The cut is at the end of the first line if a delimiter comes after it. -/
theorem cutAtDelimiter?_delimiter (hbody : '\n' ∉ body) (after : List Char) :
    cutAtDelimiter? (body ++ '\n' :: (delimiter ++ after)) = some (body, after) := by
  induction body with
  | nil =>
    rw [List.nil_append, cutAtDelimiter?, if_pos (by simp), List.drop_left]
  | cons c body ih =>
    rw [List.mem_cons, not_or] at hbody
    have hc : c ≠ '\n' := fun h ↦ hbody.1 h.symm
    rw [List.cons_append, cutAtDelimiter?, if_neg (fun h ↦ hc h.1), ih hbody.2]
    rfl

/-- Wherever a text is cut, a line break and a delimiter are taken out of it. -/
theorem eq_of_cutAtDelimiter? (h : cutAtDelimiter? cs = some (before, after)) :
    cs = before ++ '\n' :: (delimiter ++ after) := by
  induction cs generalizing before with
  | nil => cases h
  | cons c cs ih =>
    rw [cutAtDelimiter?] at h
    split at h
    next hcut =>
      obtain ⟨rfl, hprefix⟩ := hcut
      obtain ⟨later, rfl⟩ := List.isPrefixOf_iff_prefix.mp hprefix
      rw [List.drop_left] at h
      cases h
      rfl
    next =>
      obtain ⟨⟨front, back⟩, hlater, heq⟩ := Option.map_eq_some_iff.mp h
      cases heq
      rw [ih hlater]
      rfl

/-- What comes before a character that is no hyphen starts with a delimiter if the whole does. -/
theorem delimiter_prefix_of_append {c : Char} (hc : c ≠ '-')
    (h : delimiter <+: body ++ c :: rest) : delimiter <+: body := by
  by_cases hlength : delimiter.length ≤ body.length
  · exact List.prefix_of_prefix_length_le h (List.prefix_append body _) hlength
  · rw [List.append_cons] at h
    have hbody : body ++ [c] <+: delimiter :=
      List.prefix_of_prefix_length_le (List.prefix_append _ rest) h (by simp; omega)
    have hmem : c ∈ delimiter := hbody.subset (by simp)
    exact absurd (by simpa [delimiter] using hmem) hc

end

/-! ### Written files -/

namespace TableLine

variable (line : TableLine)

/-- A line is some text without a line feed, and a line feed. -/
theorem exists_chars_eq : ∃ body, '\n' ∉ body ∧ line.chars = body ++ ['\n'] := by
  obtain ⟨text, _ | _, honeLine, -⟩ := line
  · exact ⟨text, honeLine, rfl⟩
  · refine ⟨text ++ ['\r'], ?_, (List.append_cons text '\r' ['\n']).symm ▸ rfl⟩
    simp [honeLine]

/-- No delimiter is read at the start of a line. -/
theorem not_delimiter_prefix (rest : List Char) : ¬ delimiter <+: line.chars ++ rest := by
  obtain ⟨text, ending, -, hdelimiter⟩ := line
  intro h
  apply hdelimiter
  rw [TableLine.chars, List.append_assoc] at h
  cases ending with
  | feed => exact delimiter_prefix_of_append (by decide) h
  | returnFeed => exact delimiter_prefix_of_append (by decide) h

end TableLine

/-- Lines that a delimiter follows are cut from it at their last line feed. -/
theorem cutAtDelimiter?_lines {lines : List TableLine} (hne : lines ≠ []) (after : List Char) :
    cutAtDelimiter? (lines.flatMap TableLine.chars ++ (delimiter ++ after)) =
      some ((lines.flatMap TableLine.chars).dropLast, after) := by
  induction lines with
  | nil => exact absurd rfl hne
  | cons line lines ih =>
    obtain ⟨body, hbody, hchars⟩ := line.exists_chars_eq
    rw [List.flatMap_cons, hchars, List.append_assoc, List.append_assoc, List.singleton_append]
    cases lines with
    | nil =>
      rw [List.flatMap_nil, List.append_nil, List.nil_append, cutAtDelimiter?_delimiter hbody,
        List.dropLast_concat]
    | cons next later =>
      obtain ⟨text, -, hnext⟩ := next.exists_chars_eq
      have hnone : ¬ delimiter <+:
          (next :: later).flatMap TableLine.chars ++ (delimiter ++ after) := by
        rw [List.flatMap_cons, List.append_assoc]
        exact next.not_delimiter_prefix _
      have hsome : (next :: later).flatMap TableLine.chars ≠ [] := by
        simp [List.flatMap_cons, hnext]
      rw [cutAtDelimiter?_line hbody hnone, ih (List.cons_ne_nil next later), Option.map_some,
        List.append_assoc, List.dropLast_append_of_ne_nil (by simp), List.singleton_append,
        List.dropLast_cons_of_ne_nil hsome]

namespace Written

variable (file : Written)

/-- The marks and the opening delimiter are taken off; the closing one is looked for in the rest. -/
theorem splitChars_content :
    splitChars file.content.toList =
      (cutAtDelimiter? (file.table ++ (delimiter ++ (file.closing.chars ++ file.block)))).elim
        (.error .noClosing)
        fun (before, after) ↦ .ok (dropEndWhile (· == '\r') before, dropBreak after) := by
  have hmarks (rest : List Char) :
      (List.replicate file.marks '\uFEFF' ++ (delimiter ++ rest)).dropWhile (· == '\uFEFF') =
        delimiter ++ rest := by
    rw [List.dropWhile_append_of_pos (by simp +contextual [List.mem_replicate])]
    exact List.dropWhile_cons_of_neg (by decide)
  rw [content, String.toList_ofList, splitChars, hmarks,
    if_pos (List.isPrefixOf_iff_prefix.mpr (List.prefix_append ..)), List.drop_left,
    dropBreak_chars]
  cases cutAtDelimiter? (file.table ++ (delimiter ++ (file.closing.chars ++ file.block))) <;> rfl

/-- A file with a line of table is cut into the front of its table and its block. -/
theorem split_content (hlines : file.lines ≠ []) :
    split file.content = .ok (String.ofList file.front, String.ofList file.block) := by
  rw [split, splitChars_content, table, cutAtDelimiter?_lines hlines, Option.elim_some]
  dsimp only
  rw [dropBreak_chars]
  rfl

end Written

/-! ### Readers of documents -/

/-- No line goes on in front of the text. -/
def AtBreak (cs : List Char) : Prop := ∀ c ∈ cs.head?, c = '\n' ∨ c = '\r'

/-- A line break is one. -/
theorem LineBreak.atBreak (ending : LineBreak) (rest : List Char) :
    AtBreak (ending.chars ++ rest) := by
  cases ending with
  | feed =>
    rintro c ⟨⟩
    exact .inl rfl
  | returnFeed =>
    rintro c ⟨⟩
    exact .inr rfl

/-- Less of a text is at a break if the whole is. -/
theorem AtBreak.of_append {front back : List Char} (h : AtBreak (front ++ back)) :
    AtBreak front := by
  intro c hc
  apply h c
  rw [List.head?_append, hc]
  rfl

/-- What a reader of TOML documents makes of two of them. -/
structure ReadsDocuments (read : String → Option Entries) : Prop where
  /-- The empty document has no entries. -/
  empty : read "" = some []
  /-- A line of three hyphens is a key without a value. -/
  bareKey : ∀ rest, AtBreak rest → read (String.ofList (delimiter ++ rest)) = none

section

open Reader

variable {α β : Type} {reader : Reader α} {next : α → Reader β} {p : Char → Bool}
  {cs run rest : List Char} {value : α}

/-- What a reader has taken is off the text that the next one is given. -/
theorem bind_of_eq_some (h : reader cs = some (value, rest)) :
    (reader >>= next) cs = next value rest := by
  change (reader cs).bind _ = _
  rw [h]
  rfl

/-- A reader that fails ends the reading. -/
theorem bind_of_eq_none (h : reader cs = none) : (reader >>= next) cs = none := by
  change (reader cs).bind _ = _
  rw [h]
  rfl

/-- A run of characters is taken up to where the class ends. -/
theorem takeWhile_append (hrun : ∀ c ∈ run, p c = true) (hrest : ∀ c ∈ rest.head?, p c = false) :
    takeWhile p (run ++ rest) = some (run, rest) := by
  rw [takeWhile, List.takeWhile_append_of_pos hrun, List.dropWhile_append_of_pos hrun]
  cases rest with
  | nil => rw [List.takeWhile_nil, List.dropWhile_nil, List.append_nil]
  | cons c rest =>
    have hc := Bool.eq_false_iff.mp (hrest c rfl)
    rw [List.takeWhile_cons_of_neg hc, List.dropWhile_cons_of_neg hc, List.append_nil]

namespace AtBreak

/-- A class without the characters of line breaks ends at a break. -/
theorem head_eq_false (h : AtBreak rest) (hfeed : p '\n' = false) (hreturn : p '\r' = false) :
    ∀ c ∈ rest.head?, p c = false := by
  intro c hc
  obtain rfl | rfl := h c hc
  · exact hfeed
  · exact hreturn

/-- Another character is not there at a break. -/
theorem literal_eq_none (h : AtBreak rest) {c : Char} (hfeed : c ≠ '\n') (hreturn : c ≠ '\r') :
    literal [c] rest = none := by
  cases rest with
  | nil => rfl
  | cons d rest =>
    have hd : c ≠ d := by
      obtain rfl | rfl := h d rfl
      · exact hfeed
      · exact hreturn
    simp [literal, hd]

/-- No blanks are there at a break. -/
theorem blanks_eq (h : AtBreak rest) : blanks rest = some ((), rest) :=
  bind_of_eq_some (takeWhile_append (List.forall_mem_nil _) (h.head_eq_false rfl rfl))

/-- A line of three hyphens is read as a key. -/
theorem keyPart_delimiter (h : AtBreak rest) :
    keyPart (delimiter ++ rest) = some ("---", rest) := by
  have hstart : blanks (delimiter ++ rest) = some ((), delimiter ++ rest) := rfl
  have hrun : takeWhile isBareKey (delimiter ++ rest) = some (delimiter, rest) :=
    takeWhile_append (List.all_eq_true.mp rfl) (h.head_eq_false rfl rfl)
  have hpart : (basicString <|> literalString <|> takeWhile1 isBareKey) (delimiter ++ rest) =
      some (delimiter, rest) := by
    change takeWhile1 isBareKey (delimiter ++ rest) = _
    rw [takeWhile1, bind_of_eq_some hrun]
    rfl
  rw [keyPart, bind_of_eq_some hstart, bind_of_eq_some hpart, bind_of_eq_some h.blanks_eq]
  rfl

/-- The key goes no further than its line. -/
theorem key_delimiter (h : AtBreak rest) : key (delimiter ++ rest) = some (([], "---"), rest) := by
  have hfirst : maybe keyPart (delimiter ++ rest) = some (some "---", rest) := by
    rw [maybe, h.keyPart_delimiter]
  have hmore : many (literal ['.'] *> keyPart) rest = some ([], rest) := by
    cases rest with
    | nil => rfl
    | cons c rest =>
      have hnone : (literal ['.'] *> keyPart) (c :: rest) = none :=
        bind_of_eq_none (h.literal_eq_none (by decide) (by decide))
      rw [many, List.length_cons, manyWithin, hnone]
  have hparts : separated keyPart (literal ['.']) (delimiter ++ rest) = some (["---"], rest) := by
    rw [separated, bind_of_eq_some hfirst]
    dsimp only
    rw [bind_of_eq_some hmore]
    rfl
  rw [key, bind_of_eq_some hparts]
  rfl

/-- The line is no statement, as no value comes after the key. -/
theorem statement_delimiter (h : AtBreak rest) : statement (delimiter ++ rest) = none := by
  have hstart : blanks (delimiter ++ rest) = some ((), delimiter ++ rest) := rfl
  have hpeek : peek (delimiter ++ rest) = some (some '-', delimiter ++ rest) := rfl
  rw [statement, bind_of_eq_some hstart, bind_of_eq_some hpeek]
  refine bind_of_eq_none ?_
  rw [pair, bind_of_eq_some h.key_delimiter]
  exact bind_of_eq_none (h.literal_eq_none (by decide) (by decide))

end AtBreak

/-- The reader of the project reads both documents as it should. -/
theorem readsDocuments_parse : ReadsDocuments Toml.parse where
  empty := rfl
  bareKey := by
    intro rest hrest
    have hmany : many statement (delimiter ++ rest) = some ([], delimiter ++ rest) := by
      change manyWithin statement (rest.length + 2 + 1) (delimiter ++ rest) = _
      rw [manyWithin, hrest.statement_delimiter]
    have hlines : (do let lines ← many statement; blanks; return lines : Reader _)
        (delimiter ++ rest) = some ([], delimiter ++ rest) := by
      rw [bind_of_eq_some hmany]
      rfl
    have hmark : (delimiter ++ rest).head? ≠ some '\uFEFF' := by simp [delimiter]
    rw [Toml.parse, String.toList_ofList, if_neg hmark, Reader.run, hlines]
    rfl

end

/-! ### Reading fixture files -/

/-- The text is a fixture table, and which fixture it is. -/
def IsTable (read : String → Option Entries) (front : String) (fixture : Fixture) : Prop :=
  ∃ entries, read front = some entries ∧ ofEntries entries = .ok fixture

/-- The fixture of a table without entries. -/
def bare : Fixture := ⟨none, .default, none, [], none⟩

variable {read : String → Option Entries} {content block : String} {fixture : Fixture}

/-- A file is read when it can be cut and its front is a fixture table. -/
theorem parseBy_eq_ok_iff :
    parseBy read content = .ok (fixture, block) ↔
      ∃ front, split content = .ok (front, block) ∧ IsTable read front fixture := by
  constructor
  · intro h
    unfold parseBy at h
    split at h
    next => cases h
    next front rest hsplit =>
      split at h
      next => cases h
      next entries hread =>
        split at h
        next hentries =>
          cases h
          exact ⟨front, hsplit, entries, hread, hentries⟩
        next => cases h
  · rintro ⟨front, hsplit, entries, hread, hentries⟩
    simp only [parseBy, hsplit, hread, hentries]

namespace Written

variable (file : Written)

/-- Without a line of table, a cut can only be made after the closing delimiter, and that is then in
the front. -/
theorem exists_of_split_content {front : String} (hlines : file.lines = [])
    (hsplit : split file.content = .ok (front, block)) :
    ∃ rest, AtBreak rest ∧ front = String.ofList (delimiter ++ rest) := by
  rw [split, splitChars_content, table, hlines, List.flatMap_nil, List.nil_append] at hsplit
  rcases hcut : cutAtDelimiter? (delimiter ++ (file.closing.chars ++ file.block)) with
    _ | ⟨before, after⟩ <;> rw [hcut] at hsplit <;> cases hsplit
  have heq := eq_of_cutAtDelimiter? hcut
  have hbefore : delimiter <+: before :=
    delimiter_prefix_of_append (by decide) (heq ▸ List.prefix_append delimiter _)
  obtain ⟨rest, rfl⟩ := hbefore
  rw [List.append_assoc, List.append_cancel_left_eq] at heq
  obtain ⟨back, hback⟩ : dropEndWhile (· == '\r') rest <+: file.closing.chars ++ file.block :=
    (List.rdropWhile_prefix _ rest).trans (heq ▸ List.prefix_append rest _)
  have hlast : ∀ c ∈ delimiter.getLast?, (c == '\r') = false := by
    rintro c ⟨⟩
    rfl
  have hbreak : AtBreak (dropEndWhile (· == '\r') rest ++ back) :=
    hback ▸ file.closing.atBreak file.block
  exact ⟨_, hbreak.of_append, by rw [dropEndWhile_append hlast]⟩

/-- Whatever the block holds, a file with a line of table is cut where its delimiters are, and is
read exactly when its front is a fixture table, for which no entry is needed. A file without one is
never read. -/
theorem parseBy_content (hread : ReadsDocuments read) :
    (file.lines ≠ [] →
      split file.content = .ok (String.ofList file.front, String.ofList file.block)) ∧
    (∀ fixture block, parseBy read file.content = .ok (fixture, block) ↔
      file.lines ≠ [] ∧ IsTable read (String.ofList file.front) fixture ∧
        block = String.ofList file.block) ∧
    IsTable read "" bare := by
  refine ⟨file.split_content, ?_, [], hread.empty, rfl⟩
  intro fixture block
  rw [parseBy_eq_ok_iff]
  constructor
  · rintro ⟨front, hsplit, htable⟩
    by_cases hlines : file.lines = []
    · obtain ⟨rest, hrest, rfl⟩ := file.exists_of_split_content hlines hsplit
      obtain ⟨entries, hentries, -⟩ := htable
      rw [hread.bareKey rest hrest] at hentries
      cases hentries
    · rw [file.split_content hlines] at hsplit
      cases hsplit
      exact ⟨hlines, htable, rfl⟩
  · rintro ⟨hlines, htable, rfl⟩
    exact ⟨String.ofList file.front, file.split_content hlines, htable⟩

end Written

/-- Two byte order marks, both kinds of line breaks, and a block that holds a delimiter itself. -/
def ruledFile : Written where
  marks := 2
  opening := .returnFeed
  lines := [⟨"description = \"x\"".toList, .returnFeed, by decide, by decide⟩,
    ⟨[], .feed, by decide, by decide⟩]
  closing := .feed
  block := "---\n<hi\n---\n".toList

/-- The ruled file is cut between its delimiters, and what it holds is read from there. -/
theorem parseBy_content_ruledFile :
    ruledFile.content = "\uFEFF\uFEFF---\r\ndescription = \"x\"\r\n\n---\n---\n<hi\n---\n" ∧
      String.ofList ruledFile.front = "description = \"x\"\r\n" ∧
      split ruledFile.content = .ok ("description = \"x\"\r\n", "---\n<hi\n---\n") ∧
      parse ruledFile.content = .ok ({ bare with description := some "x" }, "---\n<hi\n---\n") := by
  obtain ⟨hsplit, hok, -⟩ := ruledFile.parseBy_content readsDocuments_parse
  have hlines : ruledFile.lines ≠ [] := List.cons_ne_nil _ _
  have hfront : String.ofList ruledFile.front = "description = \"x\"\r\n" := by decide
  have htable : IsTable Toml.parse "description = \"x\"\r\n"
      { bare with description := some "x" } := ⟨_, rfl, rfl⟩
  have hread := (hok { bare with description := some "x" } "---\n<hi\n---\n").mpr
    ⟨hlines, hfront ▸ htable, rfl⟩
  refine ⟨by decide, hfront, ?_, hread⟩
  rw [hsplit hlines, hfront]
  rfl

/-- A file with no line between its delimiters. -/
def tablelessFile : Written := ⟨0, .feed, [], .feed, "<Hi\n".toList⟩

/-- The front between the delimiters is a fixture table, but the closing one is not found. -/
theorem parse_tablelessFile :
    tablelessFile.content = "---\n---\n<Hi\n" ∧
      IsTable Toml.parse (String.ofList tablelessFile.front) bare ∧
      parse tablelessFile.content = .error (.frontmatter .noClosing) := by
  refine ⟨by decide, ⟨[], rfl, rfl⟩, ?_⟩
  rfl

end Colloquy.Fixture
